import SysExporter.Statement.Scraper

namespace SysExporter

-- The scrapers that can run, in the order in which they were accepted.
structure Registry where
  scrapers : List Scraper

structure UnknownScraper where
  name : String
  deriving DecidableEq, Repr

def UnknownScraper.message (unknown : UnknownScraper) : String :=
  "unknown scraper " ++ Text.quote unknown.name

namespace Registry

def empty : Registry := ⟨[]⟩

def builtin : Registry := ⟨[Statement.scraper]⟩

def names (r : Registry) : List String :=
  r.scrapers.map Scraper.name

def get? (r : Registry) (name : String) : Option Scraper :=
  r.scrapers.find? (·.name = name)

-- A scraper is accepted if its name is new.
def register (r : Registry) (s : Scraper) : Bool × Registry :=
  if (r.get? s.name).isSome then (false, r) else (true, ⟨r.scrapers ++ [s]⟩)

-- The named scrapers in the order of the registry. No name at all stands for
-- everything; otherwise the first unknown name is a fault.
def select (r : Registry) (wanted : List String) : Except UnknownScraper Registry :=
  if wanted.isEmpty then .ok r
  else
    match wanted.find? fun name => (r.get? name).isNone with
    | some name => .error ⟨name⟩
    | none => .ok ⟨r.scrapers.filter fun s => wanted.contains s.name⟩

def supportedBy (r : Registry) (server : ServerVersion) : Registry :=
  ⟨r.scrapers.filter fun s => s.version ≤ server⟩

def toText (r : Registry) : String :=
  "ScraperRegistry \x7b scrapers: [" ++ ", ".intercalate (r.names.map Text.quote) ++ "] \x7d"

end Registry

end SysExporter
