import SysExporter.Registry

namespace SysExporter.Collection

open SysExporter.Metric Scrape

def subsystem : String := "exporter"

def success : Descriptor :=
  .gauge subsystem "collector_success" "mysqld_exporter: Whether a collector succeeded."
    ["collector"]

def duration : Descriptor :=
  .gauge subsystem "collector_duration_seconds" "Collector time duration." ["collector"]

-- How long the report on a scraper may take to be handed over.
def reportBudget : Nat := 1000

def reportContext (now : Nat) : Context :=
  ⟨some (now + reportBudget), none⟩

-- How the run of a scraper went, and how many milliseconds it took.
structure Outcome where
  scraper : String
  elapsed : Nat
  result : Except ScrapeError Unit

namespace Outcome

def successGauge (outcome : Outcome) : Observation :=
  ⟨success, if outcome.result.isOk then .one else .zero, [outcome.scraper], rfl⟩

def durationGauge (outcome : Outcome) : Observation :=
  ⟨duration, .ofRatio outcome.elapsed 1000, [outcome.scraper], rfl⟩

def gauges (outcome : Outcome) : List Observation :=
  [outcome.successGauge, outcome.durationGauge]

end Outcome

-- The report is bounded by a context of its own, so that a cycle that is over
-- still reports. A gauge that is not taken in is left out.
def report (outcome : Outcome) (w : World) : Except Halt Unit × World :=
  let ctx := reportContext w.now
  match w.push ctx outcome.successGauge with
  | (.error .abandoned, w) => (.error .abandoned, w)
  | (_, w) =>
    match w.push ctx outcome.durationGauge with
    | (.error .abandoned, w) => (.error .abandoned, w)
    | (_, w) => (.ok (), w)

-- An outcome counts once it is reported.
def conclude (outcome : Outcome) (w : World) : Except Halt Outcome × World :=
  match report outcome w with
  | (.error halt, w) => (.error halt, w)
  | (.ok (), w) => (.ok outcome, w)

-- The scraper's own failure is its outcome and stops nothing.
def runOne (s : Scraper) (ctx : Context) (w : World) : Except Halt Outcome × World :=
  match s.scrape ctx w with
  | (.error .abandoned, v) => (.error .abandoned, v)
  | (.error (.failed e), v) => conclude ⟨s.name, v.now - w.now, .error e⟩ v
  | (.ok (), v) => conclude ⟨s.name, v.now - w.now, .ok ()⟩ v

def runAll (ctx : Context) : List Scraper → World → Except Halt (List Outcome) × World
  | [], w => (.ok [], w)
  | s :: rest, w =>
    match runOne s ctx w with
    | (.error halt, w) => (.error halt, w)
    | (.ok outcome, w) =>
      match runAll ctx rest w with
      | (.error halt, w) => (.error halt, w)
      | (.ok outcomes, w) => (.ok (outcome :: outcomes), w)

def collect (r : Registry) (ctx : Context) (w : World) : Except Halt (List Outcome) × World :=
  runAll ctx r.scrapers w

-- After the run a reader receives what is left. One that sleeps wakes once more
-- to learn that nothing follows. Each round but the last shortens the buffer.
def settle : Nat → World → World
  | 0, w => w
  | fuel + 1, w =>
    let later := w.turn
    match later.nextWake with
    | none => later
    | some t =>
      if later.channel.buffer.isEmpty then { later with now := t }
      else settle fuel { later with now := t }

def finish (reader : Reader) (w : World) : World :=
  settle (w.channel.buffer.length + 2) { w with reader := reader }

end SysExporter.Collection
