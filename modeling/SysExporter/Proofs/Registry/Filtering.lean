import Mathlib.Data.Prod.Lex
import Mathlib.Order.MinMax
import SysExporter.CommandLine.Run
import SysExporter.Proofs.Registry.Selection
import SysExporter.Proofs.Result
import SysExporter.Scrape.Scripted

namespace SysExporter

namespace ServerVersion

-- The numbers of a version as they are compared, the first that differs deciding.
def key (v : ServerVersion) : ℕ ×ₗ ℕ ×ₗ ℕ :=
  toLex (v.major.toNat, toLex (v.minor.toNat, v.patch.toNat))

instance : Min ServerVersion := minOfLe

variable {u v w : ServerVersion}

theorem isLE_then_compare {a b : UInt32} {rest : Ordering} :
    ((compare a b).then rest).isLE = true ↔
      a.toNat < b.toNat ∨ a.toNat = b.toNat ∧ rest.isLE = true := by
  rcases Nat.lt_trichotomy a.toNat b.toNat with hless | hsame | hmore
  · have hcompare : compare a b = .lt := by
      simp [compare, compareOfLessAndEq, UInt32.lt_iff_toNat_lt, hless]
    rw [hcompare]
    simp [hless]
  · obtain rfl := UInt32.toNat_inj.mp hsame
    simp
  · have hcompare : compare a b = .gt := by
      have hne : a ≠ b := by
        rintro rfl
        omega
      simp [compare, compareOfLessAndEq, UInt32.lt_iff_toNat_lt, hne, Nat.lt_asymm hmore]
    have hne : a.toNat ≠ b.toNat := by omega
    simp [hcompare, hne, Nat.le_of_lt hmore]

theorem le_iff_key_le : v ≤ w ↔ v.key ≤ w.key := by
  have hlast : (compare v.patch w.patch).isLE = true ↔ v.patch.toNat ≤ w.patch.toNat := by
    rw [← (compare v.patch w.patch).then_eq, isLE_then_compare]
    simp [Nat.le_iff_lt_or_eq]
  show ((compare _ _).then ((compare _ _).then (compare _ _))).isLE = true ↔ _
  rw [isLE_then_compare, isLE_then_compare, hlast, key, key, Prod.Lex.toLex_le_toLex,
    Prod.Lex.toLex_le_toLex]

theorem key_min : (min v w).key = min v.key w.key := by
  show (if v ≤ w then v else w).key = _
  by_cases h : v ≤ w
  · rw [if_pos h, min_eq_left (le_iff_key_le.mp h)]
  · rw [if_neg h, min_eq_right (not_le.mp (mt le_iff_key_le.mpr h)).le]

theorem le_min_iff_le : u ≤ min v w ↔ u ≤ v ∧ u ≤ w := by
  rw [le_iff_key_le, key_min, le_min_iff, ← le_iff_key_le, ← le_iff_key_le]

end ServerVersion

namespace Registry

variable {r q : Registry} {wanted other : List String} {v w : ServerVersion}

theorem chosen_congr (h : ∀ name, name ∈ other ↔ name ∈ wanted) :
    r.chosen other = r.chosen wanted := by
  have hempty : other = [] ↔ wanted = [] := by
    simp only [List.eq_nil_iff_forall_not_mem, h]
  simp only [chosen, h, hempty]

theorem chosen_chosen (r : Registry) (wanted : List String) :
    (r.chosen wanted).chosen wanted = r.chosen wanted := by
  simp [chosen]

theorem supportedBy_chosen (r : Registry) (wanted : List String) (v : ServerVersion) :
    (r.chosen wanted).supportedBy v = (r.supportedBy v).chosen wanted := by
  simp [chosen, supportedBy, List.filter_filter, Bool.and_comm]

theorem supportedBy_supportedBy (r : Registry) (v w : ServerVersion) :
    (r.supportedBy v).supportedBy w = r.supportedBy (min v w) := by
  simp [supportedBy, List.filter_filter, ServerVersion.le_min_iff_le, Bool.and_comm]

theorem supportedBy_sublist (h : v ≤ w) (r : Registry) :
    (r.supportedBy v).scrapers.Sublist (r.supportedBy w).scrapers := by
  apply List.monotone_filter_right
  intro s hs
  have hold := ServerVersion.le_iff_key_le.mp (of_decide_eq_true hs)
  exact decide_eq_true (ServerVersion.le_iff_key_le.mpr
    (hold.trans (ServerVersion.le_iff_key_le.mp h)))

-- Choosing comes first, so that a name counts as known whatever the server.
theorem select_supportedBy_eq_ok_iff :
    (·.supportedBy v) <$> r.select wanted = .ok q ↔
      (∀ name ∈ wanted, name ∈ r.names) ∧ q = (r.supportedBy v).chosen wanted := by
  simp only [map_eq_ok_iff, select_eq_ok_iff, ← supportedBy_chosen]
  constructor
  · rintro ⟨_, ⟨hknown, rfl⟩, rfl⟩
    exact ⟨hknown, rfl⟩
  · rintro ⟨hknown, rfl⟩
    exact ⟨_, ⟨hknown, rfl⟩, rfl⟩

-- The other way round a name is unknown as well if its scraper is too new.
theorem supportedBy_select_eq_ok_iff :
    (r.supportedBy v).select wanted = .ok q ↔
      (∀ name ∈ wanted, name ∈ (r.supportedBy v).names) ∧
        (·.supportedBy v) <$> r.select wanted = .ok q := by
  have hsubset : ∀ name ∈ (r.supportedBy v).names, name ∈ r.names := by
    intro name hname
    obtain ⟨s, hs, rfl⟩ := List.mem_map.mp hname
    exact mem_names_of_mem (List.mem_of_mem_filter hs)
  rw [select_supportedBy_eq_ok_iff, select_eq_ok_iff]
  constructor
  · rintro ⟨hknown, rfl⟩
    exact ⟨hknown, fun name hname => hsubset name (hknown name hname), rfl⟩
  · rintro ⟨hknown, -, rfl⟩
    exact ⟨hknown, rfl⟩

theorem registryFor_eq (settings : Config.Settings) (server : ServerVersion) :
    CommandLine.registryFor settings server =
      ((·.supportedBy server) <$> builtin.select settings.cycle.scrapers).mapError
        fun unknown => .rejected (.violation (.unknownScraper unknown)) := by
  unfold CommandLine.registryFor
  cases builtin.select settings.cycle.scrapers <;> rfl

-- Choosing by name and leaving out what is too new are filters, and in the order of
-- a run they go together: what is left is what the server supports, restricted to
-- the names, and the only fault is a name that is not registered at all. In the
-- other order a name of a scraper that is too new is a fault as well, and where
-- there is none the outcome is the same.
theorem select_supportedBy (r : Registry) :
    (∀ wanted q, r.select wanted = .ok q → wanted ≠ [] →
      q = ⟨r.scrapers.filter fun s => s.name ∈ wanted⟩ ∧ q.select wanted = .ok q ∧
      ∀ other, (∀ name, name ∈ other ↔ name ∈ wanted) → r.select other = .ok q) ∧
    (∀ v, r.supportedBy v = ⟨r.scrapers.filter fun s => s.version.key ≤ v.key⟩) ∧
    (∀ v w, v ≤ w → (r.supportedBy v).scrapers.Sublist (r.supportedBy w).scrapers) ∧
    (∀ v w, (r.supportedBy v).supportedBy w = r.supportedBy (min v w)) ∧
    (∀ wanted v q, (·.supportedBy v) <$> r.select wanted = .ok q ↔
      (∀ name ∈ wanted, name ∈ r.names) ∧
        q = ⟨(r.supportedBy v).scrapers.filter fun s => wanted = [] ∨ s.name ∈ wanted⟩) ∧
    (∀ wanted v unknown, (·.supportedBy v) <$> r.select wanted = .error unknown ↔
      ∃ before after, wanted = before ++ unknown.name :: after ∧
        (∀ name ∈ before, name ∈ r.names) ∧ unknown.name ∉ r.names) ∧
    (∀ wanted v q, (r.supportedBy v).select wanted = .ok q ↔
      (∀ name ∈ wanted, name ∈ (r.supportedBy v).names) ∧
        (·.supportedBy v) <$> r.select wanted = .ok q) ∧
    ∀ (settings : Config.Settings) server,
      CommandLine.registryFor settings server =
        ((·.supportedBy server) <$> builtin.select settings.cycle.scrapers).mapError
          fun unknown => .rejected (.violation (.unknownScraper unknown)) := by
  refine ⟨?_, ?_, fun v w h => supportedBy_sublist h r, supportedBy_supportedBy r,
    fun wanted v q => select_supportedBy_eq_ok_iff, ?_,
    fun wanted v q => supportedBy_select_eq_ok_iff, registryFor_eq⟩
  · intro wanted q hselect hwanted
    obtain ⟨hknown, rfl⟩ := select_eq_ok_iff.mp hselect
    refine ⟨by simp [chosen, hwanted], ?_, ?_⟩
    · refine select_eq_ok_iff.mpr ⟨fun name hname => ?_, (chosen_chosen r wanted).symm⟩
      exact (mem_names_chosen hwanted).mpr ⟨hknown name hname, hname⟩
    · intro other hsame
      refine select_eq_ok_iff.mpr ⟨fun name hname => ?_, (chosen_congr hsame).symm⟩
      exact hknown name ((hsame name).mp hname)
  · intro v
    simp only [supportedBy, ServerVersion.le_iff_key_le]
  · intro wanted v unknown
    rw [map_eq_error_iff]
    exact select_eq_error_iff

-- The two orders differ for a name that is registered, but for a later server.
theorem select_supportedBy_late :
    let late := Scrape.scripted "late" ⟨8, 0, 0⟩ []
    let r := (builtin.register late).2
    (·.supportedBy ⟨5, 7, 44⟩) <$> r.select ["late", "late"] = .ok empty ∧
    (r.supportedBy ⟨5, 7, 44⟩).select ["late", "late"] = .error ⟨"late"⟩ := by
  intro late r
  obtain ⟨-, -, -, -, hboth, -⟩ := select_supportedBy r
  constructor
  · apply (hboth _ _ _).mpr
    constructor
    · decide
    · rfl
  · apply select_eq_error_iff.mpr
    exact ⟨[], ["late"], rfl, by simp, by decide⟩

end Registry

end SysExporter
