import SysExporter.Proofs.Scrape.Reading
import SysExporter.Scrape.Rows

namespace SysExporter.Scrape

open SysExporter.Metric Sql

section

variable {α : Type} (projection : Projection α) (observe : α → List Observation) (ctx : Context)

-- The plain form of a run, without a row that waits apart: each item is requested
-- when its turn comes. The number is that of the first item.
def iterate (stalls : Bool) : Nat → List Source.Item → World → Except Halt Unit × World
  | _, [], w =>
    match w.fetch ctx ⟨[], stalls⟩ with
    | (.ok _, v) => (.ok (), v.release)
    | (.error halt, v) => (.error halt, v.release)
  | n, item :: rest, w =>
    if ctx.isDone w.now then (.error (.failed .cancelled), w.release)
    else
      match item with
      | .error fault => (.error (.failed (.ofSource fault n)), (w.record .requested).release)
      | .ok row =>
        match projection.read row with
        | .error reason => (.error (.failed (.decode n reason)), (w.record .requested).release)
        | .ok value =>
          match pushAll ctx (observe value) (w.record .requested) with
          | (.ok (), v) => iterate stalls (n + 1) rest v
          | (.error halt, v) => (.error halt, v.release)

end

section

variable {α : Type} {projection : Projection α} {observe : α → List Observation} {ctx : Context}

end

end SysExporter.Scrape
