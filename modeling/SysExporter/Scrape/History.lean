import SysExporter.Metric.Observation

namespace SysExporter.Scrape

open SysExporter.Metric

-- What a scrape and its reader do that can be seen.
inductive Event where
  | issued (sql : String)
  | requested
  | accepted (o : Observation)
  | received (o : Observation)

def Event.accepted? : Event → Option Observation
  | .accepted o => some o
  | _ => none

def Event.received? : Event → Option Observation
  | .received o => some o
  | _ => none

structure Entry where
  time : Nat
  event : Event

abbrev History := List Entry

namespace History

def accepted (h : History) : List Observation :=
  (h.filterMap fun entry => entry.event.accepted?).reverse

def received (h : History) : List Observation :=
  (h.filterMap fun entry => entry.event.received?).reverse

def receipts (h : History) : List Nat :=
  h.filterMap fun entry => entry.event.received?.map fun _ => entry.time

@[simp]
theorem accepted_nil : accepted [] = [] := rfl

@[simp]
theorem received_nil : received [] = [] := rfl

@[simp]
theorem accepted_singleton (entry : Entry) : accepted [entry] = entry.event.accepted?.toList := by
  cases h : entry.event.accepted? <;> simp [accepted, h]

@[simp]
theorem received_singleton (entry : Entry) : received [entry] = entry.event.received?.toList := by
  cases h : entry.event.received? <;> simp [received, h]

-- What is taken in later comes after what was taken in before.
@[simp]
theorem accepted_append (new old : History) :
    accepted (new ++ old) = accepted old ++ accepted new := by
  simp [accepted]

@[simp]
theorem received_append (new old : History) :
    received (new ++ old) = received old ++ received new := by
  simp [received]

end History

end SysExporter.Scrape
