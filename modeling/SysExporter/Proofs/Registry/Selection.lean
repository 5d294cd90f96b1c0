import Mathlib.Data.List.Nodup
import SysExporter.Registry

namespace SysExporter.Registry

variable {r q : Registry} {s : Scraper} {name : String} {wanted : List String}

theorem mem_names_of_mem (h : s ∈ r.scrapers) : s.name ∈ r.names :=
  List.mem_map_of_mem h

theorem get?_eq_none_iff : r.get? name = none ↔ name ∉ r.names := by
  simp [get?, names]

theorem isSome_get?_iff : (r.get? name).isSome = true ↔ name ∈ r.names := by
  rw [Option.isSome_iff_ne_none, ne_eq, get?_eq_none_iff, not_not]

-- Where names are distinct the first scraper of a name is the only one.
theorem get?_eq_some_iff (h : r.names.Nodup) :
    r.get? name = some s ↔ s ∈ r.scrapers ∧ s.name = name := by
  constructor
  · intro hget
    exact ⟨List.mem_of_find?_eq_some hget, by simpa using List.find?_some hget⟩
  · rintro ⟨hmem, rfl⟩
    cases hget : r.get? s.name with
    | none => exact absurd (mem_names_of_mem hmem) (get?_eq_none_iff.mp hget)
    | some other =>
      have hother : other.name = s.name := by simpa using List.find?_some hget
      rw [List.inj_on_of_nodup_map h (List.mem_of_find?_eq_some hget) hmem hother]

theorem register_of_mem (h : s.name ∈ r.names) : r.register s = (false, r) :=
  if_pos (isSome_get?_iff.mpr h)

theorem register_of_not_mem (h : s.name ∉ r.names) :
    r.register s = (true, ⟨r.scrapers ++ [s]⟩) :=
  if_neg (mt isSome_get?_iff.mp h)

-- The scrapers with the wanted names in the order of the registry, or all of them.
def chosen (r : Registry) (wanted : List String) : Registry :=
  ⟨r.scrapers.filter fun s => wanted = [] ∨ s.name ∈ wanted⟩

theorem chosen_sublist (r : Registry) (wanted : List String) :
    (r.chosen wanted).scrapers.Sublist r.scrapers :=
  List.filter_sublist

theorem mem_names_chosen (h : wanted ≠ []) :
    name ∈ (r.chosen wanted).names ↔ name ∈ r.names ∧ name ∈ wanted := by
  simp only [names, chosen, h, false_or, List.mem_map, List.mem_filter, decide_eq_true_eq]
  constructor
  · rintro ⟨s, ⟨hmem, hwanted⟩, rfl⟩
    exact ⟨⟨s, hmem, rfl⟩, hwanted⟩
  · rintro ⟨⟨s, hmem, rfl⟩, hwanted⟩
    exact ⟨s, ⟨hmem, hwanted⟩, rfl⟩

-- A choice of distinct registered names has these names and no others.
theorem names_chosen_perm (hr : r.names.Nodup) (hdistinct : wanted.Nodup)
    (hknown : ∀ name ∈ wanted, name ∈ r.names) (h : wanted ≠ []) :
    (r.chosen wanted).names.Perm wanted := by
  have hnodup : (r.chosen wanted).names.Nodup :=
    hr.sublist ((chosen_sublist r wanted).map Scraper.name)
  refine (List.perm_ext_iff_of_nodup hnodup hdistinct).mpr fun name => ?_
  rw [mem_names_chosen h]
  exact ⟨And.right, fun hname => ⟨hknown name hname, hname⟩⟩

theorem find?_unknown_iff :
    wanted.find? (· ∉ r.names) = some name ↔
      ∃ before after, wanted = before ++ name :: after ∧
        (∀ earlier ∈ before, earlier ∈ r.names) ∧ name ∉ r.names := by
  rw [List.find?_eq_some_iff_append]
  simp only [decide_eq_true_eq, Bool.not_eq_true', decide_eq_false_iff_not, not_not]
  tauto

theorem find?_unknown_eq_none_iff :
    wanted.find? (· ∉ r.names) = none ↔ ∀ name ∈ wanted, name ∈ r.names := by
  simp

-- Two of the three ways through a selection end the same way: nothing at all
-- stands for everything.
theorem select_eq (r : Registry) (wanted : List String) :
    r.select wanted =
      match wanted.find? (· ∉ r.names) with
      | some name => .error ⟨name⟩
      | none => .ok (r.chosen wanted) := by
  have hunknown : (fun name => (r.get? name).isNone) = fun name => decide (name ∉ r.names) := by
    funext name
    rw [Bool.eq_iff_iff, Option.isNone_iff_eq_none, get?_eq_none_iff, decide_eq_true_eq]
  rw [select, hunknown]
  cases wanted with
  | nil => simp [chosen]
  | cons first rest =>
    rw [List.isEmpty_cons, if_neg Bool.false_ne_true]
    cases (first :: rest).find? fun name => decide (name ∉ r.names) <;> simp [chosen]

theorem select_eq_ok_iff :
    r.select wanted = .ok q ↔ (∀ name ∈ wanted, name ∈ r.names) ∧ q = r.chosen wanted := by
  rw [select_eq, ← find?_unknown_eq_none_iff]
  cases wanted.find? (· ∉ r.names) <;> simp [eq_comm]

theorem select_eq_error_iff {unknown : UnknownScraper} :
    r.select wanted = .error unknown ↔
      ∃ before after, wanted = before ++ unknown.name :: after ∧
        (∀ name ∈ before, name ∈ r.names) ∧ unknown.name ∉ r.names := by
  rw [select_eq, ← find?_unknown_iff]
  cases wanted.find? (· ∉ r.names) with
  | none => simp
  | some found =>
    cases unknown
    simp

end SysExporter.Registry
