import Mathlib.Algebra.Ring.Nat
import SysExporter.CommandLine.Run
import SysExporter.Proofs.Config.Validation
import SysExporter.Proofs.Duration.Seconds
import SysExporter.Proofs.Result

namespace SysExporter.CommandLine

open Config Scrape

theorem withTimeout?_eq_none_iff (ctx : Context) {now : Nat} {d : Duration} :
    ctx.withTimeout? now d = none ↔ 2 ^ 63 * 1000000000 ≤ now + d.inNanos := by
  simp [Context.withTimeout?, after?]

-- An end that is that far off cannot be told by any clock.
theorem withTimeout?_eq_none_of_le (ctx : Context) (now : Nat) {d : Duration}
    (h : 2 ^ 63 ≤ d.seconds) : ctx.withTimeout? now d = none := by
  rw [withTimeout?_eq_none_iff, Duration.inNanos]
  omega

theorem ending_report_ne_crashed (outcomes : List Collection.Outcome)
    (observations : List Metric.Observation) (text : String) :
    (report outcomes observations).ending ≠ .crashed text := by
  unfold report
  split
  · simp
  · split <;> simp

-- Of what can break off a cycle only the deadline says so.
theorem collect_crashed_iff {clock : Nat} {settings : Settings} {r : Registry}
    {pool : MySql.Pool} :
    (collect clock settings r pool).ending = .crashed instantOverflow ↔
      2 ^ 63 * 1000000000 ≤ clock + settings.cycle.timeout.inNanos := by
  rw [← withTimeout?_eq_none_iff .unbounded, collect]
  cases Context.unbounded.withTimeout? clock settings.cycle.timeout with
  | none => simp
  | some ctx =>
    have hcapacity : Channel.capacityOverflow ≠ instantOverflow := by decide
    simp only [reduceCtorEq, iff_false]
    split
    · simpa using hcapacity
    · split
      · exact ending_report_ne_crashed _ _ _
      · simp

-- Before the cycle only a pool without room breaks a run off.
theorem prepare_ne_crashed {text : String} (h : MySql.Pool.noCapacity ≠ text) (env : Environment)
    (network : MySql.Network) (settings : Settings) :
    prepare env network settings ≠ .error (.crashed text) := by
  intro hcrashed
  obtain hdsn | ⟨dsn, -, hrest⟩ := bind_eq_error_iff.mp hcrashed
  · obtain ⟨_, -, hending⟩ := mapError_eq_error_iff.mp hdsn
    cases hending
  split at hrest
  · cases hrest
  · exact h (Ending.crashed.inj (Except.error.inj hrest))
  · obtain hversion | ⟨server, -, hrest⟩ := bind_eq_error_iff.mp hrest
    · obtain ⟨_, -, hending⟩ := mapError_eq_error_iff.mp hversion
      cases hending
    obtain hregistry | ⟨r, -, hrest⟩ := bind_eq_error_iff.mp hrest
    · obtain ⟨_, -, hending⟩ := mapError_eq_error_iff.mp hregistry
      cases hending
    · cases hrest

theorem prepare_withTimeout (env : Environment) (network : MySql.Network) (settings : Settings)
    (d : Duration) :
    prepare env network { settings with cycle := { settings.cycle with timeout := d } } =
      prepare env network settings := by
  simp only [prepare, Settings.dsn, registryFor]

section

variable {env : Environment} {files : Files} {network : MySql.Network} {clock : Nat}
  {a : Arguments} {text : String}

-- Other texts than those of a duration and of a pool are of the cycle.
theorem runWith_crashed_iff_collect (hcarry : LoadFault.durationOverflow.message ≠ text)
    (hpool : MySql.Pool.noCapacity ≠ text) :
    (runWith env files network clock a).ending = .crashed text ↔
      a.list = false ∧ ∃ settings pool r, a.settings env files = .ok settings ∧
        prepare env network settings = .ok (pool, r) ∧
        (collect clock settings r pool).ending = .crashed text := by
  cases hlist : a.list with
  | true => simp [runWith, hlist]
  | false =>
    simp only [runWith, hlist, Bool.false_eq_true, if_false, true_and]
    split
    · rename_i hsettings
      simp [hsettings, hcarry]
    · rename_i fault _ hsettings
      simp [hsettings]
    · rename_i settings hsettings
      simp only [hsettings, Except.ok.injEq]
      cases hprepare : prepare env network settings with
      | error ending =>
        have hne : ending ≠ .crashed text := by
          rintro rfl
          exact prepare_ne_crashed hpool env network settings hprepare
        simp [hne, hprepare]
      | ok prepared =>
        obtain ⟨pool, r⟩ := prepared
        simp [hprepare]

theorem run_crashed_iff_runWith {given : Variables} {arguments : List String}
    (hcarry : UsageFault.durationOverflow.message ≠ text) :
    (run given files network clock arguments).ending = .crashed text ↔
      ∃ a, Request.parse given arguments = .ok (.run a) ∧
        (runWith given.environment files network clock a).ending = .crashed text := by
  cases hrequest : Request.parse given arguments with
  | error fault => cases fault <;> simp [run, hrequest, hcarry]
  | ok request => cases request <;> simp [run, hrequest]

theorem runWith_crashed_iff :
    (runWith env files network clock a).ending = .crashed instantOverflow ↔
      a.list = false ∧ ∃ settings pool r, a.settings env files = .ok settings ∧
        prepare env network settings = .ok (pool, r) ∧
        2 ^ 63 * 1000000000 ≤ clock + settings.cycle.timeout.inNanos := by
  rw [runWith_crashed_iff_collect (by decide) (by decide)]
  simp only [collect_crashed_iff]

end

theorem Arguments.settings_eq_ok_iff {a : Arguments} {env : Environment} {files : Files}
    {settings : Settings} :
    a.settings env files = .ok settings ↔
      ∃ base, a.baseSettings env files = .ok base ∧
        (a.override base).validate env = .ok () ∧ a.override base = settings := by
  unfold Arguments.settings
  cases a.baseSettings env files with
  | error fault => simp [Except.mapError, bind, Except.bind]
  | ok base =>
    simp only [Except.mapError, bind, Except.bind]
    cases h : (a.override base).validate env <;> simp [h, pure, Except.pure]

-- No check looks at how long a timeout is.
theorem Arguments.settings_withTimeout {a : Arguments} {env : Environment} {files : Files}
    {settings : Settings} {d : Duration} (h : a.settings env files = .ok settings)
    (hd : d ≠ .zero) :
    { a with timeout := some d }.settings env files =
      .ok { settings with cycle := { settings.cycle with timeout := d } } := by
  obtain ⟨base, hbase, hvalid, rfl⟩ := settings_eq_ok_iff.mp h
  have hfile : { a with timeout := some d }.baseSettings env files = a.baseSettings env files := rfl
  have hoverride : { a with timeout := some d }.override base =
      { a.override base with cycle := { (a.override base).cycle with timeout := d } } := by
    simp only [override, Option.getD_some]
  refine settings_eq_ok_iff.mpr ⟨base, hfile.trans hbase, ?_, hoverride⟩
  rw [hoverride, Settings.validate_eq_ok_iff]
  intro rule
  have hmeets := Settings.validate_eq_ok_iff.mp hvalid rule
  cases rule with
  | timeout => exact hd
  | address | connections | capacity | distinct | known => exact hmeets

-- A run breaks off at its deadline exactly if it gets as far as its cycle with a
-- timeout that ends 2 ^ 63 seconds or more after the start of the clock. Nothing
-- stops such a timeout before: any that is not zero is accepted in place of another,
-- no clock can tell the end of one of 2 ^ 63 seconds or more, and seconds can be
-- written up to the last number of one word.
theorem run_crashed_iff (given : Variables) (files : Files) (network : MySql.Network)
    (clock : Nat) (arguments : List String) :
    let env := given.environment
    ((run given files network clock arguments).ending = .crashed instantOverflow ↔
      ∃ a settings pool r, Request.parse given arguments = .ok (.run a) ∧ a.list = false ∧
        a.settings env files = .ok settings ∧ prepare env network settings = .ok (pool, r) ∧
        2 ^ 63 * 1000000000 ≤ clock + settings.cycle.timeout.inNanos) ∧
    (∀ (a : Arguments) settings pool r (d : Duration), a.list = false →
      a.settings env files = .ok settings → prepare env network settings = .ok (pool, r) →
      d ≠ .zero →
      ((runWith env files network clock { a with timeout := some d }).ending =
        .crashed instantOverflow ↔ 2 ^ 63 * 1000000000 ≤ clock + d.inNanos)) ∧
    (∀ now (d : Duration), 2 ^ 63 ≤ d.seconds → Context.unbounded.withTimeout? now d = none) ∧
    ∀ n : UInt64, n ≠ 0 → Duration.parseTimeout s!"{n}s" = .ok (.ofSeconds n) := by
  intro env
  refine ⟨?_, ?_, ?_, ?_⟩
  · rw [run_crashed_iff_runWith (by decide)]
    simp only [runWith_crashed_iff, exists_and_left, env]
  · intro a settings pool r d hlist hsettings hprepare hd
    have hwith := Arguments.settings_withTimeout hsettings hd
    have hsame := (prepare_withTimeout env network settings d).trans hprepare
    rw [runWith_crashed_iff]
    constructor
    · rintro ⟨-, found, _, _, hfound, -, hlong⟩
      obtain rfl := Except.ok.inj (hwith.symm.trans hfound)
      exact hlong
    · exact fun hlong => ⟨hlist, _, pool, r, hwith, hsame, hlong⟩
  · exact fun now _ => withTimeout?_eq_none_of_le .unbounded now
  · exact fun _ => Duration.parseTimeout_seconds

-- A server that is there, and has nothing to say but its version.
def quietServer : MySql.Network := fun _ =>
  .ok ⟨.given [⟨.varString, false, false, 20⟩] [[some [56, 46, 48]]] none, .given [] [] none⟩

theorem run_crashed_timeout :
    let timeout := Duration.ofSeconds 9223372036854775808
    let settings := { Settings.default with cycle := { Cycle.default with timeout := timeout } }
    Duration.parseTimeout "9223372036854775808s" = .ok timeout ∧
    settings.validate (fun _ => none) = .ok () ∧
    Context.unbounded.withTimeout? 0 timeout = none ∧
    (run (fun _ => none) (fun _ => none) quietServer 0
      ["--timeout", "9223372036854775808s"]).ending = .crashed instantOverflow := by
  decide +kernel

end SysExporter.CommandLine
