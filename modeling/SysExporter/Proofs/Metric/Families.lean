import Mathlib.Data.List.Nodup
import SysExporter.Metric.Family

namespace SysExporter.Metric

-- The family that an observation opens, with the later observations of its name.
def Family.opened (o : Observation) (later : List Observation) : Family :=
  ⟨o.descriptor.name, o.descriptor.help, o.descriptor.kind, (o :: later).map .ofObservation⟩

theorem Family.opened_push (o : Observation) (later : List Observation) (next : Observation) :
    (Family.opened o later).push (.ofObservation next) = .opened o (later ++ [next]) := by
  simp [opened, push]

-- What was not yet in a list of families when its first family was opened is
-- grouped apart from that family.
theorem foldl_insertObservation (o : Observation) (later observations : List Observation)
    (grouped : List Family) :
    observations.foldl (fun grouped o => insertObservation o grouped)
      (.opened o later :: grouped) =
    .opened o (later ++ observations.filter (o.descriptor.name = ·.descriptor.name)) ::
      (observations.filter (o.descriptor.name ≠ ·.descriptor.name)).foldl
        (fun grouped o => insertObservation o grouped) grouped := by
  induction observations generalizing later grouped with
  | nil => simp
  | cons next rest ih =>
    have hname : (Family.opened o later).name = o.descriptor.name := rfl
    by_cases hsame : o.descriptor.name = next.descriptor.name
    · rw [List.foldl_cons, insertObservation, if_pos (hname.trans hsame), Family.opened_push, ih]
      simp [hsame]
    · rw [List.foldl_cons, insertObservation, if_neg (hname ▸ hsame), ih]
      simp [hsame]

-- The first observation opens the first family, which takes all others of its
-- name. The rest is grouped as if these were not there.
theorem families_cons (o : Observation) (rest : List Observation) :
    families (o :: rest) =
      .opened o (rest.filter (o.descriptor.name = ·.descriptor.name)) ::
        families (rest.filter (o.descriptor.name ≠ ·.descriptor.name)) :=
  foldl_insertObservation o [] rest []

theorem families_of_filter {observations later others : List Observation} {o : Observation}
    (hhead : observations.head? = some o)
    (hsame : observations.filter (o.descriptor.name = ·.descriptor.name) = o :: later)
    (hother : observations.filter (o.descriptor.name ≠ ·.descriptor.name) = others) :
    families observations = .opened o later :: families others := by
  obtain ⟨rest, rfl⟩ := List.head?_eq_some_iff.mp hhead
  rw [List.filter_cons_of_pos (by simp)] at hsame
  rw [List.filter_cons_of_neg (by simp)] at hother
  rw [families_cons, List.cons.inj hsame |>.2, hother]

-- What holds of the families of a list holds if it can be carried from those that
-- are left to all once the first family is taken out.
theorem families_induction {P : List Observation → List Family → Prop} (nil : P [] [])
    (cons : ∀ (o : Observation) (rest : List Observation),
      P (rest.filter (o.descriptor.name ≠ ·.descriptor.name))
        (families (rest.filter (o.descriptor.name ≠ ·.descriptor.name))) →
      P (o :: rest) (families (o :: rest))) (observations : List Observation) :
    P observations (families observations) := by
  induction h : observations.length using Nat.strongRecOn generalizing observations with
  | ind n ih =>
    cases observations with
    | nil => exact nil
    | cons o rest =>
      refine cons o rest (ih _ ?_ _ rfl)
      rw [← h, List.length_cons]
      exact Nat.lt_succ_of_le (List.length_filter_le _ rest)

-- The names of the families are those of the observations, each where it occurs first.
theorem names_families (observations : List Observation) :
    (families observations).map Family.name =
      (observations.map (·.descriptor.name)).eraseDups := by
  refine families_induction (P := fun observations grouped =>
    grouped.map Family.name = (observations.map (·.descriptor.name)).eraseDups) rfl ?_ observations
  intro o rest ih
  have hothers : (rest.map (·.descriptor.name)).filter (fun name => !name == o.descriptor.name) =
      (rest.filter (o.descriptor.name ≠ ·.descriptor.name)).map (·.descriptor.name) := by
    rw [List.filter_map]
    refine congrArg _ (List.filter_congr fun next _ => ?_)
    rw [Bool.eq_iff_iff]
    simpa using not_congr eq_comm
  rw [families_cons, List.map_cons, ih, List.map_cons, List.eraseDups_cons, hothers]
  rfl

-- Each name has one family.
theorem mem_names_families {observations : List Observation} {name : String} :
    name ∈ (families observations).map Family.name ↔
      ∃ o ∈ observations, o.descriptor.name = name := by
  rw [names_families, List.mem_eraseDups, List.mem_map]

theorem nodup_names_families (observations : List Observation) :
    ((families observations).map Family.name).Nodup := by
  refine families_induction (P := fun _ grouped => (grouped.map Family.name).Nodup)
    List.nodup_nil ?_ observations
  intro o rest ih
  rw [families_cons, List.map_cons, List.nodup_cons]
  refine ⟨fun hmem => ?_, ih⟩
  obtain ⟨next, hnext, hname⟩ := mem_names_families.mp hmem
  exact of_decide_eq_true (List.mem_filter.mp hnext).2 hname.symm

-- The observations of a name.
def named (name : String) (observations : List Observation) : List Observation :=
  observations.filter (name = ·.descriptor.name)

theorem named_cons_self (o : Observation) (rest : List Observation) :
    named o.descriptor.name (o :: rest) = o :: named o.descriptor.name rest :=
  List.filter_cons_of_pos (by exact decide_eq_true rfl)

-- Observations of other names make no difference.
theorem named_cons_filter {name : String} {o : Observation} (hne : name ≠ o.descriptor.name)
    (rest : List Observation) :
    named name (o :: rest) = named name (rest.filter (o.descriptor.name ≠ ·.descriptor.name)) := by
  rw [named, List.filter_cons_of_neg (by simpa using hne), named, List.filter_filter]
  refine List.filter_congr fun next _ => ?_
  by_cases hnext : name = next.descriptor.name
  · simp [hnext, hnext ▸ hne.symm]
  · simp [hnext]

theorem name_ne_of_mem_families {o : Observation} {rest : List Observation} {family : Family}
    (h : family ∈ families (rest.filter (o.descriptor.name ≠ ·.descriptor.name))) :
    family.name ≠ o.descriptor.name := by
  intro heq
  obtain ⟨next, hnext, hname⟩ := mem_names_families.mp (List.mem_map_of_mem (f := Family.name) h)
  exact of_decide_eq_true (List.mem_filter.mp hnext).2 (hname.trans heq).symm

-- A family holds the observations of its name in their order. The first of them opened it.
theorem named_of_mem_families {observations : List Observation} {family : Family}
    (h : family ∈ families observations) :
    ∃ first later, named family.name observations = first :: later ∧
      family = .opened first later := by
  refine families_induction (P := fun observations grouped => ∀ family ∈ grouped,
    ∃ first later, named family.name observations = first :: later ∧
      family = .opened first later) ?_ ?_ observations family h
  · simp
  · intro o rest ih family hfamily
    rw [families_cons] at hfamily
    rcases List.mem_cons.mp hfamily with rfl | hfamily
    · exact ⟨o, named o.descriptor.name rest, named_cons_self o rest, rfl⟩
    · rw [named_cons_filter (name_ne_of_mem_families hfamily)]
      exact ih family hfamily

theorem name_of_mem_named {name : String} {observations : List Observation} {o : Observation}
    (h : o ∈ named name observations) : o.descriptor.name = name :=
  (of_decide_eq_true (List.mem_filter.mp h).2).symm

theorem exists_of_mem_families {observations : List Observation} {family : Family}
    (h : family ∈ families observations) :
    ∃ o later, family = .opened o later ∧ o ∈ observations ∧
      ∀ next ∈ later, next ∈ observations ∧ next.descriptor.name = o.descriptor.name := by
  obtain ⟨first, later, hnamed, heq⟩ := named_of_mem_families h
  have hmem {o : Observation} (ho : o ∈ first :: later) : o ∈ named family.name observations :=
    hnamed ▸ ho
  have hname : family.name = first.descriptor.name := heq ▸ rfl
  refine ⟨first, later, heq, (List.mem_filter.mp (hmem List.mem_cons_self)).1, ?_⟩
  intro next hnext
  have hnext := hmem (List.mem_cons_of_mem _ hnext)
  exact ⟨(List.mem_filter.mp hnext).1, (name_of_mem_named hnext).trans hname⟩

theorem samples_family {observations : List Observation} {family : Family}
    (h : family ∈ families observations) :
    family.samples = (named family.name observations).map .ofObservation := by
  obtain ⟨first, later, hnamed, heq⟩ := named_of_mem_families h
  rw [hnamed, heq]
  rfl

-- Every observation belongs to one family.
theorem flatMap_named_perm (observations : List Observation) :
    ((families observations).flatMap fun family => named family.name observations).Perm
      observations := by
  refine families_induction (P := fun observations grouped =>
    (grouped.flatMap fun family => named family.name observations).Perm observations)
    (List.Perm.refl _) ?_ observations
  intro o rest ih
  have hothers : ((families (rest.filter (o.descriptor.name ≠ ·.descriptor.name))).flatMap
      fun family => named family.name (o :: rest)).Perm
      (rest.filter (o.descriptor.name ≠ ·.descriptor.name)) := by
    rw [List.flatMap_congr fun family hfamily =>
      named_cons_filter (name_ne_of_mem_families hfamily) rest]
    exact ih
  have hsplit := List.filter_append_perm (o.descriptor.name = ·.descriptor.name) rest
  simp only [← decide_not] at hsplit
  rw [families_cons, List.flatMap_cons]
  change (named o.descriptor.name (o :: rest) ++ _).Perm _
  rw [named_cons_self, List.cons_append]
  exact ((hothers.append_left _).trans hsplit).cons o

-- The name of a series and its labels.
def Observation.series (o : Observation) : String × List (String × String) :=
  (o.descriptor.name, o.labels)

def Family.series (family : Family) : List (String × List (String × String)) :=
  family.samples.map fun sample => (family.name, sample.labels)

-- Regrouping neither loses nor repeats a series.
theorem series_families_perm (observations : List Observation) :
    ((families observations).flatMap Family.series).Perm (observations.map Observation.series) := by
  have hseries (family : Family) (h : family ∈ families observations) :
      family.series = (named family.name observations).map Observation.series := by
    rw [Family.series, samples_family h, List.map_map]
    refine List.map_congr_left fun o ho => ?_
    rw [Function.comp_apply, ← name_of_mem_named ho]
    rfl
  rw [List.flatMap_congr hseries, ← List.map_flatMap]
  exact (flatMap_named_perm observations).map _

-- A sample shows every label of its observation, in the order of the descriptor.
theorem labels_ofObservation (o : Observation) :
    (Sample.ofObservation o).labels.map Prod.fst = o.descriptor.labels ∧
      (Sample.ofObservation o).labels.map Prod.snd = o.labelValues :=
  ⟨List.map_fst_zip (Nat.le_of_eq o.arity.symm), List.map_snd_zip (Nat.le_of_eq o.arity)⟩

-- Grouping is a stable partition. There is a family for each name, in the order in
-- which the names occur first. It holds the observations of its name in their order
-- and takes help and kind from the first of them, but each sample keeps the kind of
-- its own observation. No family is empty, and no observation is lost or repeated.
theorem families_partition (observations : List Observation) :
    (families observations).map Family.name = (observations.map (·.descriptor.name)).eraseDups ∧
    ((families observations).map Family.name).Nodup ∧
    (∀ family ∈ families observations, ∃ first later,
      observations.filter (family.name = ·.descriptor.name) = first :: later ∧
      family.help = first.descriptor.help ∧ family.kind = first.descriptor.kind ∧
      family.samples ≠ [] ∧
      List.Forall₂ (fun o sample =>
        sample.labels.map Prod.fst = o.descriptor.labels ∧
        sample.labels.map Prod.snd = o.labelValues ∧
        sample.kind = o.descriptor.kind ∧ sample.value = o.value)
        (first :: later) family.samples) ∧
    ((families observations).map (·.samples.length)).foldr (· + ·) 0 = observations.length := by
  refine ⟨names_families observations, nodup_names_families observations, ?_, ?_⟩
  · intro family hfamily
    obtain ⟨first, later, hnamed, rfl⟩ := named_of_mem_families hfamily
    refine ⟨first, later, hnamed, rfl, rfl, List.cons_ne_nil _ _, ?_⟩
    refine List.forall₂_map_right_iff.mpr (List.forall₂_same.mpr fun o _ => ?_)
    exact ⟨(labels_ofObservation o).1, (labels_ofObservation o).2, rfl, rfl⟩
  · have hlength (family : Family) (hfamily : family ∈ families observations) :
        family.samples.length = (named family.name observations).length := by
      rw [samples_family hfamily, List.length_map]
    have hsum : ((families observations).map fun family =>
        (named family.name observations).length).foldr (· + ·) 0 = _ := List.length_flatMap.symm
    rw [List.map_congr_left hlength, hsum]
    exact (flatMap_named_perm observations).length_eq

end SysExporter.Metric
