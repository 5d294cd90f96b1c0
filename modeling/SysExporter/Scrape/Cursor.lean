import SysExporter.Scrape.RowStream

namespace SysExporter.Scrape

-- A query that is held: its rows, or the bare items of the source.
inductive Cursor where
  | rows (s : RowStream)
  | items (feed : Source.Feed)

namespace Cursor

-- Whether it still takes up a place at the source.
def isOpen : Cursor → Bool
  | .rows s => !s.isFinished
  | .items _ => true

def drop (c : Cursor) (w : World) : World :=
  match c with
  | .rows s => s.release w
  | .items _ => w.release

end Cursor

-- What is left of a feed once an item of it was requested.
def leftOver (feed : Source.Feed) : Except Halt (Option (Source.Item × Source.Feed)) → Source.Feed
  | .ok (some (_, rest)) => rest
  | _ => feed

end SysExporter.Scrape
