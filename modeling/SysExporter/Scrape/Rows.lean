import SysExporter.Scrape.RowStream

namespace SysExporter.Scrape

open SysExporter.Metric Sql

-- Hands observations over one by one, up to the first that is not taken in.
def pushAll (ctx : Context) : List Observation → World → Except Halt Unit × World
  | [], w => (.ok (), w)
  | o :: rest, w =>
    match w.push ctx o with
    | (.ok (), w) => pushAll ctx rest w
    | (.error halt, w) => (.error halt, w)

-- Each row is turned into observations, and the next one is asked for when all
-- of them are handed over. The cursor is released however this ends.
def drain {α : Type} (projection : Projection α) (observe : α → List Observation)
    (ctx : Context) (s : RowStream) (w : World) : Except Halt Unit × World :=
  match _h : s.next projection ctx w with
  | ((.error halt, rest), w) => (.error halt, rest.release w)
  | ((.ok none, rest), w) => (.ok (), rest.release w)
  | ((.ok (some value), rest), w) =>
    match pushAll ctx (observe value) w with
    | (.ok (), w) => drain projection observe ctx rest w
    | (.error halt, w) => (.error halt, rest.release w)
termination_by s.remaining
decreasing_by exact RowStream.remaining_next _h

-- One query, and the observations of all its rows.
def scrapeRows {α : Type} (projection : Projection α) (observe : α → List Observation)
    (ctx : Context) (w : World) : Except Halt Unit × World :=
  match RowStream.execute projection ctx w with
  | (.error halt, w) => (.error halt, w)
  | (.ok s, w) => drain projection observe ctx s w

end SysExporter.Scrape
