import SysExporter.Scrape.Context

namespace SysExporter.Scrape

-- Timers go by ticks of a millisecond, which are counted from an epoch. None
-- waits for a tick past the last one.
namespace Timer

-- The length of a tick in nanoseconds.
def tick : Nat := 1000000

def lastTick : Nat := Nat.pow 2 64 - 3

-- The tick that a timer waits for: the first one that is not before the instant.
def ticks (epoch t : Nat) : Nat :=
  min ((t + (tick - 1) - epoch) / tick) lastTick

-- The instant at which a timer goes off.
def wake (epoch t : Nat) : Nat :=
  epoch + tick * ticks epoch t

end Timer

namespace Context

-- A context as it is awaited, by the signal of its cancellation and by a timer.
def awaited (ctx : Context) (epoch : Nat) : Context :=
  { ctx with deadline := ctx.deadline.map (Timer.wake epoch) }

-- A context as a scrape has it, whose clock goes by ticks.
def inTicks (ctx : Context) (epoch : Nat) : Context where
  deadline := ctx.deadline.map (Timer.ticks epoch)
  cancellation := ctx.cancellation.map (Timer.ticks epoch)

end Context

-- For how many ticks work may be blocked before it is given up.
def patience : Nat := 1000000000

end SysExporter.Scrape
