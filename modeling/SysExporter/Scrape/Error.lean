import SysExporter.Source.Feed

namespace SysExporter

-- What ends the run of a scraper early. Rows are counted from one.
inductive ScrapeError where
  | query (text : String)
  | decode (row : Nat) (reason : String)
  | cancelled
  | sinkClosed
  deriving DecidableEq, Repr

namespace ScrapeError

def message : ScrapeError → String
  | .query text => "query failed: " ++ text
  | .decode row reason => s!"failed to decode row {row}: " ++ reason
  | .cancelled => "scrape cancelled"
  | .sinkClosed => "observation sink closed"

def isCancelled (e : ScrapeError) : Bool :=
  e = .cancelled

-- A fault of the source while the given row was fetched.
def ofSource (fault : Source.Fault) (row : Nat) : ScrapeError :=
  match fault with
  | .query text => .query text
  | .decode reason => .decode row reason

end ScrapeError

end SysExporter
