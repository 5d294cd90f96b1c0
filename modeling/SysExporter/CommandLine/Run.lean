import SysExporter.Collection
import SysExporter.CommandLine.Arguments
import SysExporter.Config.Loading
import SysExporter.Metric.Exposition
import SysExporter.MySql.Session

namespace SysExporter.CommandLine

open SysExporter.Metric Text Scrape

-- The files that can be read, by their paths.
abbrev Files := String → Option Bytes

inductive RunFault where
  | load (fault : Config.LoadFault)
  | rejected (r : Config.Rejection)
  | source (fault : Source.Fault)
  | noText
  | scrapersFailed (count total : Nat)
  deriving DecidableEq

-- How a program ends: well, with a fault, at a command line that makes no sense,
-- by breaking off, or never.
inductive Ending where
  | succeeded
  | failed (fault : RunFault)
  | misused (fault : UsageFault)
  | crashed (text : String)
  | hung
  deriving DecidableEq

structure Outcome where
  output : String
  ending : Ending

namespace Arguments

-- What is given on the command line replaces what a file says.
def override (a : Arguments) (s : Config.Settings) : Config.Settings where
  database := { s.database with dsn := a.dsn.getD s.database.dsn }
  cycle := { s.cycle with
    timeout := a.timeout.getD s.cycle.timeout
    scrapers := if a.scrapers.isEmpty then s.cycle.scrapers else a.scrapers }

-- The settings that a file gives, or the default ones.
def baseSettings (env : Config.Environment) (files : Files) (a : Arguments) :
    Except Config.LoadFault Config.Settings :=
  match a.config with
  | some path => Config.Settings.load env (files path)
  | none => .ok .default

-- The settings of a run. They are checked before and after they are replaced.
def settings (env : Config.Environment) (files : Files) (a : Arguments) :
    Except RunFault Config.Settings := do
  let base ← (a.baseSettings env files).mapError .load
  (a.override base |>.validate env).mapError .rejected
  return a.override base

end Arguments

def listLine (s : Scraper) : String :=
  s.name ++ "\t" ++ s.version.toText ++ "\t" ++ s.help ++ "\n"

def listing : String :=
  String.join (Registry.builtin.scrapers.map listLine)

-- A cycle from an idle start: the observations that its reader received, and
-- the outcomes of the scrapers.
def runCycle (r : Registry) (ctx : Context) (channel : Channel) (source : Source) :
    Except Halt (List Collection.Outcome) × List Observation :=
  let (outcomes, w) := Collection.collect r ctx ⟨0, patience, channel, .draining, source, []⟩
  (outcomes, (Collection.finish .draining w).received)

def report (outcomes : List Collection.Outcome) (observations : List Observation) : Outcome :=
  match render observations with
  | .error _ => ⟨"", .failed .noText⟩
  | .ok text =>
    match (outcomes.filter fun o => !o.result.isOk).length with
    | 0 => ⟨text, .succeeded⟩
    | count => ⟨text, .failed (.scrapersFailed count outcomes.length)⟩

-- One cycle over a database, which starts at a reading of the clock. A deadline or
-- a channel beyond all bounds breaks the program off.
def collect (clock : Nat) (settings : Config.Settings) (r : Registry) (pool : MySql.Pool) :
    Outcome :=
  match Context.unbounded.withTimeout? clock settings.cycle.timeout with
  | none => ⟨"", .crashed instantOverflow⟩
  | some ctx =>
    match Channel.create? settings.cycle.sinkCapacity.toNat with
    | none => ⟨"", .crashed Channel.capacityOverflow⟩
    | some channel =>
      match runCycle r (ctx.inTicks clock) channel pool.source with
      | (.ok outcomes, observations) => report outcomes observations
      | (.error _, _) => ⟨"", .hung⟩

-- The scrapers that are asked for and that the server is new enough for.
def registryFor (settings : Config.Settings) (server : ServerVersion) :
    Except RunFault Registry := do
  let r ← (Registry.builtin.select settings.cycle.scrapers).mapError fun unknown =>
    .rejected (.violation (.unknownScraper unknown))
  return r.supportedBy server

def prepare (env : Config.Environment) (network : MySql.Network) (settings : Config.Settings) :
    Except Ending (MySql.Pool × Registry) := do
  let dsn ← (settings.dsn env).mapError fun r => .failed (.rejected r)
  match MySql.Pool.connect network dsn.toText settings.database.maxConnections
      settings.database.connectTimeout with
  | .error failure => throw (.failed (.source failure.toFault))
  | .ok none => throw (.crashed MySql.Pool.noCapacity)
  | .ok (some pool) =>
    let server ← pool.serverVersion.mapError fun fault => .failed (.source fault)
    return (pool, ← (registryFor settings server).mapError .failed)

def runWith (env : Config.Environment) (files : Files) (network : MySql.Network) (clock : Nat)
    (a : Arguments) : Outcome :=
  if a.list then ⟨listing, .succeeded⟩
  else match a.settings env files with
    | .error (.load .durationOverflow) => ⟨"", .crashed Config.LoadFault.durationOverflow.message⟩
    | .error fault => ⟨"", .failed fault⟩
    | .ok settings =>
      match prepare env network settings with
      | .error ending => ⟨"", ending⟩
      | .ok (pool, r) => collect clock settings r pool

def helpText : String := "Usage: sys-scrape [OPTIONS]\n"

def versionText : String := "sys-scrape 0.1.0\n"

-- The whole program: its arguments, and the variables, files and network around
-- it, with what the clock reads when it comes to its cycle.
def run (given : Variables) (files : Files) (network : MySql.Network) (clock : Nat)
    (arguments : List String) : Outcome :=
  match Request.parse given arguments with
  | .error .durationOverflow => ⟨"", .crashed UsageFault.durationOverflow.message⟩
  | .error fault => ⟨"", .misused fault⟩
  | .ok .help => ⟨helpText, .succeeded⟩
  | .ok .version => ⟨versionText, .succeeded⟩
  | .ok (.run a) => runWith given.environment files network clock a

end SysExporter.CommandLine
