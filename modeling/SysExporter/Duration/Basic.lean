namespace SysExporter

-- A span of time in whole nanoseconds, with the seconds held in one word.
structure Duration where
  seconds : Nat
  nanos : Nat
  seconds_lt : seconds < UInt64.size
  nanos_lt : nanos < 1000000000
  deriving DecidableEq, Repr

namespace Duration

def zero : Duration := ⟨0, 0, by decide, by decide⟩

def isZero (d : Duration) : Bool :=
  d.seconds == 0 && d.nanos == 0

theorem isZero_iff {d : Duration} : d.isZero = true ↔ d = .zero := by
  cases d
  simp [isZero, zero]

-- Whole seconds, as many as one word holds.
def ofSeconds (n : UInt64) : Duration :=
  ⟨n.toNat, 0, n.toNat_lt, by decide⟩

-- Seconds and nanoseconds, a second's worth of nanoseconds carried over. There
-- is none if the seconds outgrow their word.
def ofParts? (seconds nanos : Nat) : Option Duration :=
  if h : seconds + nanos / 1000000000 < UInt64.size then
    some ⟨seconds + nanos / 1000000000, nanos % 1000000000, h, Nat.mod_lt _ (by decide)⟩
  else none

end Duration

end SysExporter
