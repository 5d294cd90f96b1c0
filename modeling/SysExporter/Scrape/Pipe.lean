import SysExporter.Scrape.Wait

namespace SysExporter.Scrape

open SysExporter.Metric

-- A channel with its ends: the sinks by number, true as long as they are held,
-- and the receiver.
structure Pipe where
  world : World
  sinks : List Bool
  receiver : Bool

inductive Receipt where
  | item (o : Observation)
  | empty
  | disconnected

namespace Pipe

def create? (capacity : Nat) : Option Pipe :=
  (Channel.create? capacity).map fun channel =>
    ⟨.fresh channel .idle ⟨[], false⟩, [true], true⟩

-- Nobody receives while a push waits for room.
def push (p : Pipe) (ctx : Context) (o : Observation) : Except Halt Unit × Pipe :=
  let w := { p.world with horizon := p.world.now + patience }
  let (result, later) := w.push ctx o
  (result, { p with world := later })

-- Without waiting. Nothing more can come once the channel is closed and empty,
-- or once no sink is held.
def receive (p : Pipe) : Receipt × Pipe :=
  match p.world.channel.dequeue with
  | some (o, channel) =>
    (.item o, { p with world := { p.world with channel := channel }.record (.received o) })
  | none =>
    if p.world.channel.closed || !p.sinks.any id then (.disconnected, p) else (.empty, p)

def close (p : Pipe) : Pipe :=
  { p with world := { p.world with channel := p.world.channel.close } }

def dropReceiver (p : Pipe) : Pipe :=
  { p with world := { p.world with channel := p.world.channel.abandon }, receiver := false }

def cloneSink (p : Pipe) : Pipe :=
  { p with sinks := p.sinks ++ [true] }

def dropSink (p : Pipe) (sink : Nat) : Pipe :=
  { p with sinks := p.sinks.set sink false }

end Pipe

end SysExporter.Scrape
