import SysExporter.Proofs.CommandLine.Deadline
import SysExporter.Proofs.CommandLine.Overrides

namespace SysExporter.CommandLine

open Config Scrape

theorem create?_eq_none_iff {capacity : Nat} :
    Channel.create? capacity = none ↔ 2 ^ 61 ≤ capacity := by
  have hbound : Channel.maxCapacity = 2 ^ 61 - 1 := rfl
  simp only [Channel.create?, hbound, ite_eq_right_iff, reduceCtorEq, imp_false]
  omega

theorem exists_channel {capacity : Nat} (hpos : 0 < capacity) (h : capacity < 2 ^ 61) :
    ∃ channel, Channel.create? capacity = some channel ∧ channel.capacity = capacity ∧
      channel.buffer = [] ∧ channel.closed = false := by
  have hbound : Channel.maxCapacity = 2 ^ 61 - 1 := rfl
  refine ⟨⟨max 1 capacity, [], false, by omega⟩, if_pos ?_, ?_, rfl, rfl⟩
  · rw [hbound]
    omega
  · exact Nat.max_eq_right hpos

-- The deadline is told before the channel is made.
theorem collect_overfull_iff {clock : Nat} {settings : Settings} {r : Registry}
    {pool : MySql.Pool} :
    (collect clock settings r pool).ending = .crashed Channel.capacityOverflow ↔
      clock + settings.cycle.timeout.inNanos < 2 ^ 63 * 1000000000 ∧
        2 ^ 61 ≤ settings.cycle.sinkCapacity.toNat := by
  rw [← Nat.not_le, ← withTimeout?_eq_none_iff .unbounded, ← create?_eq_none_iff, collect]
  cases Context.unbounded.withTimeout? clock settings.cycle.timeout with
  | none =>
    have hdeadline : instantOverflow ≠ Channel.capacityOverflow := by decide
    simpa using hdeadline
  | some ctx =>
    simp only [reduceCtorEq, not_false_eq_true, true_and]
    cases Channel.create? settings.cycle.sinkCapacity.toNat with
    | none => simp
    | some channel =>
      simp only [reduceCtorEq, iff_false]
      split
      · exact ending_report_ne_crashed _ _ _
      · simp

theorem runWith_overfull_iff {env : Environment} {files : Files} {network : MySql.Network}
    {clock : Nat} {a : Arguments} :
    (runWith env files network clock a).ending = .crashed Channel.capacityOverflow ↔
      a.list = false ∧ ∃ settings pool r, a.settings env files = .ok settings ∧
        prepare env network settings = .ok (pool, r) ∧
        clock + settings.cycle.timeout.inNanos < 2 ^ 63 * 1000000000 ∧
        2 ^ 61 ≤ settings.cycle.sinkCapacity.toNat := by
  rw [runWith_crashed_iff_collect (by decide) (by decide)]
  simp only [collect_overfull_iff]

-- The only rule for a capacity is that there is one.
theorem validate_withCapacity {env : Environment} {settings : Settings} {capacity : UInt64}
    (h : settings.validate env = .ok ()) (hcapacity : 0 < capacity) :
    { settings with cycle := { settings.cycle with sinkCapacity := capacity } }.validate env =
      .ok () := by
  rw [Settings.validate_eq_ok_iff]
  intro rule
  have hmeets := Settings.validate_eq_ok_iff.mp h rule
  cases rule with
  | capacity => exact hcapacity
  | address | connections | timeout | distinct | known => exact hmeets

-- A run breaks off at its channel exactly if it gets as far as its cycle, can tell
-- its deadline, and has a capacity of 2 ^ 61 or more. All settings with such a
-- capacity are accepted that are accepted with another one. Up to that bound
-- accepted settings have a channel with as many places as they say.
theorem run_overfull_iff (given : Variables) (files : Files) (network : MySql.Network)
    (clock : Nat) (arguments : List String) :
    let env := given.environment
    ((run given files network clock arguments).ending = .crashed Channel.capacityOverflow ↔
      ∃ a settings pool r, Request.parse given arguments = .ok (.run a) ∧ a.list = false ∧
        a.settings env files = .ok settings ∧ prepare env network settings = .ok (pool, r) ∧
        clock + settings.cycle.timeout.inNanos < 2 ^ 63 * 1000000000 ∧
        2 ^ 61 ≤ settings.cycle.sinkCapacity.toNat) ∧
    ∀ settings : Settings, settings.validate env = .ok () →
      (∀ capacity : UInt64, 0 < capacity →
        { settings with cycle := { settings.cycle with sinkCapacity := capacity } }.validate env =
          .ok ()) ∧
      (Channel.create? settings.cycle.sinkCapacity.toNat = none ↔
        2 ^ 61 ≤ settings.cycle.sinkCapacity.toNat) ∧
      (settings.cycle.sinkCapacity.toNat < 2 ^ 61 →
        ∃ channel, Channel.create? settings.cycle.sinkCapacity.toNat = some channel ∧
          channel.capacity = settings.cycle.sinkCapacity.toNat ∧ channel.buffer = [] ∧
          channel.closed = false) := by
  intro env
  constructor
  · rw [run_crashed_iff_runWith (by decide)]
    simp only [runWith_overfull_iff, exists_and_left, env]
  · intro settings hvalid
    refine ⟨fun capacity => validate_withCapacity hvalid, create?_eq_none_iff, ?_⟩
    apply exists_channel
    have hpositive : 0 < settings.cycle.sinkCapacity :=
      Settings.validate_eq_ok_iff.mp hvalid .capacity
    exact UInt64.lt_iff_toNat_lt.mp hpositive

-- The least capacity of which no channel can be made, as a file gives it.
theorem run_overfull :
    let files := fileOf "scrape:\n  sink_capacity: 2305843009213693952\n"
    let settings :=
      { Settings.default with cycle := { Cycle.default with sinkCapacity := 2305843009213693952 } }
    Settings.load unset.environment (files "scrape.yml") = .ok settings ∧
    settings.validate unset.environment = .ok () ∧
    Channel.create? settings.cycle.sinkCapacity.toNat = none ∧
    (run unset files quietServer 0 ["--config", "scrape.yml"]).ending =
      .crashed Channel.capacityOverflow := by
  decide +kernel

end SysExporter.CommandLine
