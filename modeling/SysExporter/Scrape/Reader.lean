import SysExporter.Scrape.Context
import SysExporter.Scrape.History

namespace SysExporter.Scrape

-- The receiving side. What it does depends on all that happened so far and on
-- the present.
structure Reader where
  -- Whether it receives one more observation now.
  takes : History → Nat → Bool
  -- Whether it goes away for good.
  leaves : History → Nat → Bool
  -- The next instant at which it wakes by itself.
  wakes : History → Nat → Option Nat
  -- Whether it also has a turn now, while the scrape is not suspended.
  interrupts : History → Nat → Bool := fun _ _ => false

namespace Reader

def draining : Reader where
  takes _ _ := true
  leaves _ _ := false
  wakes _ _ := none

def idle : Reader where
  takes _ _ := false
  leaves _ _ := false
  wakes _ _ := none

def taking (count : Nat) : Reader where
  takes h _ := h.receipts.length < count
  leaves h _ := count ≤ h.receipts.length
  wakes _ _ := none

def pausing (ms : Nat) : Reader where
  takes h now := h.receipts.headD 0 + ms ≤ now
  leaves _ _ := false
  wakes h _ := some (h.receipts.headD 0 + ms)

end Reader

end SysExporter.Scrape
