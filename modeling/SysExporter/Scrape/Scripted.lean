import SysExporter.Binary64.Rounding
import SysExporter.Scraper

namespace SysExporter.Scrape

open SysExporter.Metric Sql

def pair : Projection (String × UInt64) where
  query := "SELECT name, count FROM t"
  columns := 2
  decode row := do
    let name ← (row.readText 0).mapError ColumnFault.message
    let count ← (row.readUnsigned 1).mapError ColumnFault.message
    return (name, count)

def unit : Projection Unit where
  query := ""
  columns := 0
  decode _ := .ok ()

inductive Step where
  | push (value : Binary64)
  | pause (ms : Nat)
  | pairs
  | fail (e : ScrapeError)

def scriptedMetric : Descriptor :=
  .gauge "test" "value" "Scripted value." ["scraper"]

def scriptedObservation (name : String) (value : Binary64) : Observation :=
  ⟨scriptedMetric, value, [name], rfl⟩

def Step.run (name : String) (ctx : Context) (w : World) : Step → Except Halt Unit × World
  | .push value => w.push ctx (scriptedObservation name value)
  | .pause ms => w.pause ctx ms
  | .pairs =>
    scrapeRows pair (fun (_, count) => [scriptedObservation name (.ofNat count.toNat)]) ctx w
  | .fail e => (.error (.failed e), w)

def runSteps (name : String) (ctx : Context) : List Step → World → Except Halt Unit × World
  | [], w => (.ok (), w)
  | step :: rest, w =>
    match step.run name ctx w with
    | (.ok (), w) => runSteps name ctx rest w
    | (.error halt, w) => (.error halt, w)

theorem reaches_run (name : String) (ctx : Context) (w : World) (step : Step) :
    Reaches w (step.run name ctx w).2 [] := by
  cases step with
  | push value => exact Reaches.refl.push _ _
  | pause ms => exact Reaches.refl.pause _ _
  | pairs => exact Reaches.refl.rows _ _ _
  | fail e => exact Reaches.refl

theorem reaches_runSteps (name : String) (ctx : Context) (steps : List Step) (w : World) :
    Reaches w (runSteps name ctx steps w).2 [] := by
  induction steps generalizing w with
  | nil => exact Reaches.refl
  | cons step rest ih =>
    have hs := reaches_run name ctx w step
    unfold runSteps
    split
    · rename_i h
      rw [h] at hs
      exact hs.trans (ih _)
    · rename_i h
      rw [h] at hs
      exact hs

def scripted (name : String) (version : ServerVersion) (steps : List Step) : Scraper where
  name := name
  help := ""
  version := version
  scrape ctx w := runSteps name ctx steps w
  reaches ctx w := reaches_runSteps name ctx steps w

end SysExporter.Scrape
