import SysExporter.Config.Dsn
import SysExporter.Duration.Basic

namespace SysExporter.Config

structure Database where
  dsn : String
  maxConnections : UInt32
  connectTimeout : Duration
  deriving DecidableEq

structure Cycle where
  timeout : Duration
  sinkCapacity : UInt64
  scrapers : List String
  deriving DecidableEq

-- Where to read from, and how one cycle of collection goes. No scrapers at all
-- stand for every one there is.
structure Settings where
  database : Database
  cycle : Cycle
  deriving DecidableEq

def Database.default : Database :=
  ⟨"mysql://root@localhost:3306/", 3, .ofSeconds 10⟩

def Cycle.default : Cycle :=
  ⟨.ofSeconds 10, 1024, []⟩

def Settings.default : Settings :=
  ⟨.default, .default⟩

-- The first entry that is equal to an earlier one.
def firstRepeated : List String → List String → Option String
  | _, [] => none
  | seen, name :: rest =>
    if seen.contains name then some name else firstRepeated (name :: seen) rest

def Settings.dsn (env : Environment) (s : Settings) : Except Rejection Dsn :=
  Dsn.parse env s.database.dsn

-- The rules in their order. The first that is broken is reported.
def Settings.validate (env : Environment) (s : Settings) : Except Rejection Unit := do
  let _ ← s.dsn env
  if s.database.maxConnections = 0 then throw (.violation .noConnections)
  if s.cycle.timeout.isZero then throw (.violation .noTimeout)
  if s.cycle.sinkCapacity = 0 then throw (.violation .noCapacity)
  match firstRepeated [] s.cycle.scrapers with
  | some name => throw (.violation (.duplicateScraper name))
  | none => pure ()
  match Registry.builtin.select s.cycle.scrapers with
  | .error unknown => throw (.violation (.unknownScraper unknown))
  | .ok _ => return ()

end SysExporter.Config
