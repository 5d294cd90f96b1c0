import SysExporter.Scrape.Reach
import SysExporter.ServerVersion

namespace SysExporter

-- A unit of collection: a stable name, what it is for, the oldest server that
-- has what it reads, and its run.
structure Scraper where
  name : String
  help : String
  version : ServerVersion
  scrape : Scrape.Context → Scrape.World → Except Scrape.Halt Unit × Scrape.World
  -- A run touches the world through the operations of scrapes only, and holds
  -- no cursor when it is over.
  reaches : ∀ ctx w, Scrape.Reaches w (scrape ctx w).2 []

end SysExporter
