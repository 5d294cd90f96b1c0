import Mathlib.Data.List.Nodup
import SysExporter.Proofs.Statement.Exposition
import SysExporter.Proofs.Statement.Output

namespace SysExporter.Statement

open SysExporter.Metric

theorem exists_of_mem_observations {value : Summary} {o : Observation}
    (h : o ∈ value.observations) : ∃ c : Counter, c.observe value = o := by
  obtain ⟨c, -, rfl⟩ := List.mem_map.mp h
  exact ⟨c, rfl⟩

theorem plain_observations (values : List Summary) :
    ∀ o ∈ values.flatMap Summary.observations, o.descriptor.Plain := by
  intro o ho
  obtain ⟨value, -, ho⟩ := List.mem_flatMap.mp ho
  obtain ⟨c, rfl⟩ := exists_of_mem_observations ho
  exact c.plain_descriptor

-- Whose statements they are that a summary is about.
def Summary.subject (summary : Summary) : String × String :=
  (summary.user, summary.statement)

theorem Counter.series_observe (c : Counter) (summary : Summary) :
    (c.observe summary).series =
      (c.descriptor.name, [("user", summary.user), ("statement", summary.statement)]) :=
  rfl

-- A series tells its counter and its subject.
theorem Counter.eq_of_series_observe {c d : Counter} {one other : Summary}
    (h : (c.observe one).series = (d.observe other).series) :
    c = d ∧ one.subject = other.subject := by
  simp only [series_observe, Prod.mk.injEq, List.cons.injEq, true_and, and_true] at h
  exact ⟨name_descriptor_injective h.1, Prod.ext h.2.1 h.2.2⟩

theorem nodup_series_observations {values : List Summary}
    (distinct : (values.map Summary.subject).Nodup) :
    ((values.flatMap Summary.observations).map Observation.series).Nodup := by
  rw [List.map_flatMap, List.nodup_flatMap]
  constructor
  · intro value _
    have hcounters : Counter.all.Nodup := by decide
    rw [Summary.observations, List.map_map]
    exact hcounters.map fun c d heq => (Counter.eq_of_series_observe heq).1
  · refine (List.pairwise_map.mp distinct).imp fun hne series hone hother => ?_
    obtain ⟨o, ho, rfl⟩ := List.mem_map.mp hone
    obtain ⟨o', ho', heq⟩ := List.mem_map.mp hother
    obtain ⟨c, rfl⟩ := exists_of_mem_observations ho
    obtain ⟨d, rfl⟩ := exists_of_mem_observations ho'
    exact hne (Counter.eq_of_series_observe heq).2.symm

-- A script cuts its rows short at most.
theorem summaries_sublist (script : Source.Script) :
    (summaries script.items).Sublist (script.rows.filterMap fun row => summary? (.ok row)) := by
  have hrows (rows : List Sql.Row) :
      (rows.map Except.ok).filterMap summary? = rows.filterMap fun row => summary? (.ok row) :=
    List.filterMap_map
  have hitems : (script.items.filterMap summary?).Sublist
      (script.rows.filterMap fun row => summary? (.ok row)) := by
    unfold Source.Script.items
    split
    · exact List.nil_sublist _
    · rw [hrows]
    · split
      · rw [List.filterMap_append, hrows]
        have hnone (text : String) : [Except.error (.decode text)].filterMap summary? = [] := rfl
        rw [hnone, List.append_nil]
        exact (List.take_sublist _ _).filterMap _
      · rw [hrows]
  exact ((List.takeWhile_sublist _).filterMap _).trans hitems

end SysExporter.Statement
