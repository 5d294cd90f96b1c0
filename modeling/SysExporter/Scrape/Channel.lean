import SysExporter.Metric.Observation

namespace SysExporter.Scrape

open SysExporter.Metric

-- A queue of observations between a scrape and its reader. Once it is closed
-- nothing more is taken in.
structure Channel where
  capacity : Nat
  buffer : List Observation
  closed : Bool
  positive : 0 < capacity

namespace Channel

-- The number of places is bounded.
def maxCapacity : Nat := Nat.pow 2 61 - 1

def capacityOverflow : String :=
  s!"a semaphore may not have more than MAX_PERMITS permits ({maxCapacity})"

-- A channel has at least one place.
def create? (capacity : Nat) : Option Channel :=
  if max 1 capacity ≤ maxCapacity then some ⟨max 1 capacity, [], false, by omega⟩ else none

def hasRoom (channel : Channel) : Bool :=
  channel.buffer.length < channel.capacity

def enqueue (channel : Channel) (o : Observation) : Channel :=
  { channel with buffer := channel.buffer ++ [o] }

def close (channel : Channel) : Channel :=
  { channel with closed := true }

-- The reader goes away, and what it has not received is lost.
def abandon (channel : Channel) : Channel :=
  { channel with closed := true, buffer := [] }

def dequeue (channel : Channel) : Option (Observation × Channel) :=
  match channel.buffer with
  | [] => none
  | o :: rest => some (o, { channel with buffer := rest })

end Channel

end SysExporter.Scrape
