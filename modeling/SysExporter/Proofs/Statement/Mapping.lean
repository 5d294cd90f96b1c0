import SysExporter.Proofs.Binary64.Nearest
import SysExporter.Proofs.Statement.Exposition

namespace SysExporter.Statement

open SysExporter.Metric Binary64

-- The counts of a summary in the order of its columns.
def Summary.counts (summary : Summary) : List UInt64 :=
  [summary.total, summary.totalLatency, summary.maxLatency, summary.lockLatency,
    summary.rowsSent, summary.rowsExamined, summary.rowsAffected, summary.fullScans]

-- What an observation says that stands for a count of a summary. Its value is a
-- whole number, the count itself as long as doubles have all whole numbers.
structure Shows (summary : Summary) (counter : Counter) (count : UInt64) (o : Observation) :
    Prop where
  descriptor : o.descriptor = counter.descriptor
  labels : o.labels = [("user", summary.user), ("statement", summary.statement)]
  nearest : Nearest count.toNat o.value
  whole : ∃ n : Nat, o.value.toRat = n
  exact : count.toNat ≤ 2 ^ 53 → o.value.toRat = count.toNat
  close : |o.value.toRat - count.toNat| ≤ count.toNat / 2 ^ 53

section

variable (summary : Summary)

theorem Counter.shows_observe (counter : Counter) :
    Shows summary counter (counter.value summary) (counter.observe summary) := by
  have hword := (counter.value summary).toNat_lt
  constructor
  case descriptor => rfl
  case labels => rfl
  case nearest => exact nearest_ofNat hword
  case whole => exact exists_toRat_ofNat hword
  case exact => exact toRat_ofNat_of_le
  case close => exact abs_toRat_sub_le hword

theorem Summary.counts_eq : summary.counts = Counter.all.map (Counter.value summary) := rfl

theorem shows_observations :
    List.Forall₂ (fun entry o => Shows summary entry.1 entry.2 o)
      (Counter.all.zip summary.counts) summary.observations := by
  have hzip : Counter.all.zip summary.counts =
      Counter.all.map fun counter => (counter, counter.value summary) := rfl
  rw [hzip, Summary.observations, List.forall₂_map_left_iff, List.forall₂_map_right_iff,
    List.forall₂_same]
  intro counter _
  exact counter.shows_observe summary

theorem value_of_observation {i : Nat} {count : UInt64} {o : Observation}
    (hcount : summary.counts[i]? = some count) (ho : summary.observations[i]? = some o) :
    o.value = ofNat count.toNat := by
  rw [Summary.counts_eq, List.getElem?_map] at hcount
  rw [Summary.observations, List.getElem?_map] at ho
  obtain ⟨counter, hcounter, rfl⟩ := Option.map_eq_some_iff.mp hcount
  rw [hcounter, Option.map_some, Option.some.injEq] at ho
  rw [← ho]
  rfl

end

-- The observations of a summary stand for its counts one by one, under eight
-- different descriptors. Where one count is not above another, neither is what is
-- shown for it, so that a count that never falls is never seen to fall.
theorem observations_faithful (summary : Summary) :
    Counter.all.length = 8 ∧ (Counter.all.map Counter.descriptor).Nodup ∧
    List.Forall₂ (fun entry o => Shows summary entry.1 entry.2 o)
      (Counter.all.zip summary.counts) summary.observations ∧
    ∀ (other : Summary) (i j : Nat) (a b : UInt64) (o p : Observation),
      summary.counts[i]? = some a → summary.observations[i]? = some o →
      other.counts[j]? = some b → other.observations[j]? = some p → a ≤ b →
      o.value.toRat ≤ p.value.toRat := by
  refine ⟨rfl, ?_, shows_observations summary, ?_⟩
  · apply List.Nodup.of_map Descriptor.name
    rw [List.map_map]
    exact Counter.nodup_names
  · intro other i j a b o p ha ho hb hp hle
    rw [value_of_observation summary ha ho, value_of_observation other hb hp]
    exact toRat_ofNat_mono b.toNat_lt (UInt64.le_iff_toNat_le.mp hle)

end SysExporter.Statement
