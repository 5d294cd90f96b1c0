import SysExporter.CommandLine.Run
import SysExporter.Proofs.Config.Validation

namespace SysExporter.CommandLine

open Config

-- What a file says and a command line may say otherwise.
inductive Overridable where
  | dsn
  | timeout
  | scrapers
  deriving DecidableEq

namespace Overridable

-- The settings without what they say of it.
def blank (s : Settings) : Overridable → Settings
  | .dsn => { s with database := { s.database with dsn := "" } }
  | .timeout => { s with cycle := { s.cycle with timeout := .zero } }
  | .scrapers => { s with cycle := { s.cycle with scrapers := [] } }

end Overridable

namespace Arguments

def gives (a : Arguments) : Overridable → Bool
  | .dsn => a.dsn.isSome
  | .timeout => a.timeout.isSome
  | .scrapers => !a.scrapers.isEmpty

variable {a : Arguments} {o : Overridable} {s t : Settings}

theorem override_blank (h : a.gives o = true) (s : Settings) :
    a.override (o.blank s) = a.override s := by
  cases o with
  | dsn =>
    obtain ⟨dsn, hdsn⟩ := Option.isSome_iff_exists.mp h
    simp [override, Overridable.blank, hdsn]
  | timeout =>
    obtain ⟨timeout, htimeout⟩ := Option.isSome_iff_exists.mp h
    simp [override, Overridable.blank, htimeout]
  | scrapers =>
    have hscrapers : a.scrapers.isEmpty = false := by simpa [gives] using h
    simp [override, Overridable.blank, hscrapers]

theorem override_eq (h : a.gives o = true) (hsame : o.blank s = o.blank t) :
    a.override s = a.override t := by
  rw [← override_blank h s, hsame, override_blank h t]

-- A file is checked for itself before anything in it is replaced.
theorem settings_of_file {env : Environment} {files : Files} {path : String}
    (hconfig : a.config = some path) (hfile : Settings.ofFile (files path) = .ok s) :
    a.settings env files =
      match s.validate env with
      | .error rejection => .error (.load (.rejected rejection))
      | .ok () => (((a.override s).validate env).mapError .rejected).map fun _ => a.override s := by
  simp only [settings, baseSettings, hconfig, Settings.load_eq, hfile, Except.bind]
  cases s.validate env with
  | error rejection => rfl
  | ok _ =>
    simp only [Except.mapError, Except.map, bind, Except.bind]
    cases (a.override s).validate env <;> rfl

end Arguments

theorem run_eq_of_settings_eq {given : Variables} {files other : Files} {network : MySql.Network}
    {clock : Nat} {arguments : List String} {a : Arguments}
    (hrequest : Request.parse given arguments = .ok (.run a))
    (h : a.settings given.environment files = a.settings given.environment other) :
    run given files network clock arguments = run given other network clock arguments := by
  simp only [run, hrequest, runWith, h]

-- What a command line gives stands in place of what the file says, and a run does
-- not depend on that, as long as the file is good or bad for itself. A file that
-- breaks a rule is refused even where the command line would mend it.
theorem settings_overridden {given : Variables} {arguments : List String} {a : Arguments}
    {o : Overridable} {path : String} {files other : Files} {s t : Settings}
    (hrequest : Request.parse given arguments = .ok (.run a)) (hgiven : a.gives o = true)
    (hconfig : a.config = some path) (hs : Settings.ofFile (files path) = .ok s)
    (ht : Settings.ofFile (other path) = .ok t) (hsame : o.blank s = o.blank t) :
    let env := given.environment
    (s.validate env = t.validate env →
      a.settings env files = a.settings env other ∧
      ∀ network clock,
        run given files network clock arguments = run given other network clock arguments) ∧
    ∀ rejection, s.validate env = .error rejection →
      a.settings env files = .error (.load (.rejected rejection)) := by
  intro env
  refine ⟨fun hverdict => ?_, fun rejection hrejected => ?_⟩
  · have hsettings : a.settings env files = a.settings env other := by
      rw [a.settings_of_file hconfig hs, a.settings_of_file hconfig ht, hverdict,
        Arguments.override_eq hgiven hsame]
    exact ⟨hsettings, fun _ _ => run_eq_of_settings_eq hrequest hsettings⟩
  · rw [a.settings_of_file hconfig hs, hrejected]

def fileOf (text : String) : Files :=
  fun _ => some (Text.encodeUtf8 text.toList)

-- A command line that gives everything that it can.
def overriding : Arguments where
  config := some "scrape.yml"
  dsn := some "mysql://root@db/"
  timeout := some (.ofSeconds 1)
  scrapers := [Statement.scraper.name]
  list := false

def overridingArguments : List String :=
  ["--config", "scrape.yml", "--dsn", "mysql://root@db/", "--timeout", "1s",
    "--scraper", Statement.scraper.name]

def unset : Variables := fun _ => none

-- Whichever value is replaced, a file in which it is good gives the settings of a
-- run, and a file in which it is bad does not.
theorem settings_refused_file :
    Request.parse unset overridingArguments = .ok (.run overriding) ∧
    ∀ entry ∈ [
      (Overridable.dsn, "database:\n  dsn: mysql://other/\n", "database:\n  dsn: bad\n",
        Rejection.invalidDsn .relative),
      (.timeout, "scrape:\n  timeout: 5s\n", "scrape:\n  timeout: 0s\n",
        .violation .noTimeout),
      (.scrapers, "scrape:\n  scrapers: []\n", "scrape:\n  scrapers: [nope]\n",
        .violation (.unknownScraper ⟨"nope"⟩))],
      let (o, good, bad, rejection) := entry
      overriding.gives o = true ∧
      (Settings.ofFile (fileOf good "scrape.yml")).isOk = true ∧
      (Settings.ofFile (fileOf good "scrape.yml")).map o.blank =
        (Settings.ofFile (fileOf bad "scrape.yml")).map o.blank ∧
      overriding.settings unset.environment (fileOf good) = .ok (overriding.override .default) ∧
      overriding.settings unset.environment (fileOf bad) =
        .error (.load (.rejected rejection)) := by
  decide +kernel

theorem settings_overridden_timeout :
    let good := "scrape:\n  timeout: 5s\n"
    let better := "scrape:\n  timeout: 1week\n"
    Request.parse unset overridingArguments = .ok (.run overriding) ∧
    Settings.ofFile (fileOf good "scrape.yml") ≠ Settings.ofFile (fileOf better "scrape.yml") ∧
    overriding.settings unset.environment (fileOf good) =
      overriding.settings unset.environment (fileOf better) ∧
    ∀ network clock, run unset (fileOf good) network clock overridingArguments =
      run unset (fileOf better) network clock overridingArguments := by
  intro good better
  have hrequest : Request.parse unset overridingArguments = .ok (.run overriding) := by
    decide +kernel
  let timed (seconds : UInt64) : Settings :=
    { Settings.default with cycle := { Cycle.default with timeout := .ofSeconds seconds } }
  have hgood : Settings.ofFile (fileOf good "scrape.yml") = .ok (timed 5) := by decide +kernel
  have hbetter : Settings.ofFile (fileOf better "scrape.yml") = .ok (timed 604800) := by
    decide +kernel
  have hverdict : (timed 5).validate unset.environment =
      (timed 604800).validate unset.environment := by
    decide +kernel
  have hsame : Overridable.timeout.blank (timed 5) = Overridable.timeout.blank (timed 604800) := rfl
  refine ⟨hrequest, by decide +kernel, ?_⟩
  exact (settings_overridden hrequest (by decide) rfl hgood hbetter hsame).1 hverdict

end SysExporter.CommandLine
