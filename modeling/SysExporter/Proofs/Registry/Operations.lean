import SysExporter.Proofs.Registry.Selection
import SysExporter.Scrape.Scripted

namespace SysExporter.Registry

inductive Operation where
  | register (s : Scraper)
  | select (wanted : List String)
  | supportedBy (server : ServerVersion)

inductive Answer where
  | registered (s : Scraper) (isNew : Bool)
  | selected
  | refused (unknown : UnknownScraper)
  | filtered

-- The scraper that was taken in.
def Answer.accepted : Answer → List Scraper
  | .registered s true => [s]
  | _ => []

-- What is chosen takes the place of the registry, unless the choice fails.
def perform (r : Registry) : Operation → Answer × Registry
  | .register s => (.registered s (r.register s).1, (r.register s).2)
  | .select wanted =>
    match r.select wanted with
    | .ok chosen => (.selected, chosen)
    | .error unknown => (.refused unknown, r)
  | .supportedBy server => (.filtered, r.supportedBy server)

def run (r : Registry) : List Operation → List Answer × Registry
  | [] => ([], r)
  | operation :: rest =>
    let (answer, next) := r.perform operation
    let (answers, last) := next.run rest
    (answer :: answers, last)

variable {r : Registry}

-- No operation brings in anything else or changes an order.
theorem sublist_perform (r : Registry) (operation : Operation) :
    (r.perform operation).2.scrapers.Sublist
      (r.scrapers ++ (r.perform operation).1.accepted) := by
  cases operation with
  | register s =>
    by_cases h : s.name ∈ r.names
    · simp [perform, register_of_mem h, Answer.accepted]
    · simp [perform, register_of_not_mem h, Answer.accepted]
  | select wanted =>
    simp only [perform]
    cases h : r.select wanted with
    | error unknown => simp [Answer.accepted]
    | ok chosen =>
      obtain ⟨-, rfl⟩ := select_eq_ok_iff.mp h
      exact (chosen_sublist r wanted).trans (List.sublist_append_left _ _)
  | supportedBy server =>
    exact List.filter_sublist.trans (List.sublist_append_left _ _)

theorem sublist_run (r : Registry) (operations : List Operation) :
    (r.run operations).2.scrapers.Sublist
      (r.scrapers ++ (r.run operations).1.flatMap Answer.accepted) := by
  induction operations generalizing r with
  | nil => simp [run]
  | cons operation rest ih =>
    have hstep := (sublist_perform r operation).append_right
      (((r.perform operation).2.run rest).1.flatMap Answer.accepted)
    rw [List.append_assoc] at hstep
    exact (ih (r.perform operation).2).trans hstep

-- A registration keeps names distinct because it looks first, the others because
-- they only leave out.
theorem nodup_perform (h : r.names.Nodup) (operation : Operation) :
    (r.perform operation).2.names.Nodup := by
  cases operation with
  | register s =>
    by_cases hs : s.name ∈ r.names
    · simpa [perform, register_of_mem hs] using h
    · have happend : (r.names ++ [s.name]).Nodup := by
        refine List.nodup_append'.mpr ⟨h, List.nodup_singleton _, ?_⟩
        rw [List.disjoint_singleton]
        exact hs
      simpa [perform, register_of_not_mem hs, names] using happend
  | select wanted =>
    simp only [perform]
    cases hselect : r.select wanted with
    | error unknown => exact h
    | ok chosen =>
      obtain ⟨-, rfl⟩ := select_eq_ok_iff.mp hselect
      exact h.sublist ((chosen_sublist r wanted).map Scraper.name)
  | supportedBy server => exact h.sublist (List.filter_sublist.map Scraper.name)

theorem nodup_run (h : r.names.Nodup) (operations : List Operation) :
    (r.run operations).2.names.Nodup := by
  induction operations generalizing r with
  | nil => exact h
  | cons operation rest ih => exact ih (nodup_perform h operation)

-- Whatever is done to a registry, it tells its scrapers apart by their names and
-- keeps them in the order in which they came. It takes in exactly the scrapers
-- whose names are new, finds exactly those that it lists, and refuses a selection
-- for the first name that it does not list.
theorem run_distinct {start : Registry} (h : start = empty ∨ start = builtin)
    (operations : List Operation) :
    let ran := start.run operations
    let r := ran.2
    let accepted := ran.1.flatMap Answer.accepted
    r.names.Nodup ∧
    r.names.Sublist (start.names ++ accepted.map Scraper.name) ∧
    (∀ s, (r.register s = (true, ⟨r.scrapers ++ [s]⟩) ↔ s.name ∉ r.names) ∧
      (r.register s = (false, r) ↔ s.name ∈ r.names)) ∧
    (∀ name, (r.get? name).isSome = true ↔ name ∈ r.names) ∧
    (∀ name s, r.get? name = some s ↔ s ∈ r.scrapers ∧ s.name = name) ∧
    ∀ wanted unknown,
      (r.select wanted = .error unknown →
        r.perform (.select wanted) = (.refused unknown, r)) ∧
      (r.select wanted = .error unknown ↔
        ∃ before after, wanted = before ++ unknown.name :: after ∧
          (∀ name ∈ before, name ∈ r.names) ∧ unknown.name ∉ r.names) := by
  intro ran r accepted
  have hstart : start.names.Nodup := by
    rcases h with rfl | rfl
    · exact List.nodup_nil
    · exact List.nodup_singleton _
  have hnodup : r.names.Nodup := nodup_run hstart operations
  refine ⟨hnodup, ?_, fun s => ⟨?_, ?_⟩, fun name => isSome_get?_iff,
    fun name s => get?_eq_some_iff hnodup, fun wanted unknown => ⟨?_, select_eq_error_iff⟩⟩
  · have hnames := (sublist_run start operations).map Scraper.name
    rwa [List.map_append] at hnames
  · refine ⟨fun hnew hmem => ?_, register_of_not_mem⟩
    cases (register_of_mem hmem).symm.trans hnew
  · refine ⟨fun hold => ?_, register_of_mem⟩
    by_contra hmem
    cases (register_of_not_mem hmem).symm.trans hold
  · intro hselect
    simp only [perform, hselect]

-- A scraper that was left out comes back at the end, and a second one of its name
-- is not taken.
theorem run_distinct_readmitted :
    let late := Scrape.scripted "late" ⟨8, 0, 0⟩ []
    let operations : List Operation :=
      [.supportedBy ⟨5, 6, 51⟩, .register late, .register Statement.scraper, .register late,
        .select ["late", "nope"], .select [Statement.scraper.name, "late", "late"]]
    let ran := builtin.run operations
    ran.2.names = ["late", Statement.scraper.name] ∧ ran.2.names.Nodup ∧
    ran.2.names.Sublist [Statement.scraper.name, "late", Statement.scraper.name] ∧
    ran.2.select ["late", "nope", "none"] = .error ⟨"nope"⟩ := by
  intro late operations ran
  have hnames : ran.2.names = ["late", Statement.scraper.name] := by decide
  obtain ⟨hnodup, hsublist, -, -, -, hselect⟩ := run_distinct (.inr rfl) operations
  refine ⟨hnames, hnodup, hsublist, ?_⟩
  refine (hselect _ _).2.mpr ⟨["late"], ["none"], rfl, ?_, ?_⟩
  · decide
  · decide

end SysExporter.Registry
