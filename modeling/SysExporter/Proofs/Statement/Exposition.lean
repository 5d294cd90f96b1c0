import Mathlib.Data.List.Forall2
import Mathlib.Data.List.Nodup
import SysExporter.Proofs.Metric.Series
import SysExporter.Statement.Counter

namespace SysExporter.Statement

open SysExporter.Metric

theorem Counter.mem_all (c : Counter) : c ∈ Counter.all := by
  cases c <;> decide

theorem Counter.nodup_names : (Counter.all.map (·.descriptor.name)).Nodup := by
  decide

theorem Counter.name_descriptor_injective {a b : Counter}
    (h : a.descriptor.name = b.descriptor.name) : a = b :=
  List.inj_on_of_nodup_map Counter.nodup_names a.mem_all b.mem_all h

theorem Counter.plain_descriptor (c : Counter) : c.descriptor.Plain := by
  refine Descriptor.plain_of_isPlain ?_
  cases c <;> decide

theorem Counter.name_descriptor_plain (c : Counter) :
    ∀ char ∈ c.descriptor.name.toList, endsName char = false ∧ char ≠ '\n' :=
  fun char hchar =>
    ⟨(c.plain_descriptor.name char hchar).1, (c.plain_descriptor.name char hchar).2.1⟩

theorem Counter.escapeHelp_help (c : Counter) : escapeHelp c.help.toList = c.help.toList := by
  cases c <;> decide +kernel

theorem Counter.labels_observe_plain (c : Counter) (summary : Summary) :
    ∀ label ∈ (c.observe summary).labels, '=' ∉ label.1.toList ∧ '\n' ∉ label.1.toList :=
  fun label hlabel => c.plain_descriptor.labels label.1 (List.of_mem_zip hlabel).1

theorem Counter.header_ok (c : Counter) :
    c.descriptor.name ≠ "" ∧ c.descriptor.help ≠ "" ∧ c.descriptor.kind = .counter :=
  ⟨c.plain_descriptor.named, c.plain_descriptor.help, rfl⟩

section

variable {c : Counter} {counters : List Counter} (hnew : c ∉ counters) (summary : Summary)
include hnew

theorem filter_observe_same :
    ((c :: counters).map (Counter.observe summary)).filter
      (c.descriptor.name = ·.descriptor.name) = [Counter.observe summary c] := by
  have hnone : (counters.map (Counter.observe summary)).filter
      (c.descriptor.name = ·.descriptor.name) = [] := by
    refine List.filter_eq_nil_iff.mpr fun o ho => ?_
    obtain ⟨other, hmem, rfl⟩ := List.mem_map.mp ho
    intro heq
    exact hnew (Counter.name_descriptor_injective (of_decide_eq_true heq) ▸ hmem)
  rw [List.map_cons, List.filter_cons_of_pos (by exact decide_eq_true rfl), hnone]

theorem filter_observe_other :
    ((c :: counters).map (Counter.observe summary)).filter
      (c.descriptor.name ≠ ·.descriptor.name) = counters.map (Counter.observe summary) := by
  have hall : (counters.map (Counter.observe summary)).filter
      (c.descriptor.name ≠ ·.descriptor.name) = counters.map (Counter.observe summary) := by
    refine List.filter_eq_self.mpr fun o ho => ?_
    obtain ⟨other, hmem, rfl⟩ := List.mem_map.mp ho
    exact decide_eq_true fun heq => hnew (Counter.name_descriptor_injective heq ▸ hmem)
  rw [List.map_cons, List.filter_cons_of_neg (by simp [Counter.observe]), hall]

end

-- Regrouped by name, the observations of a list of summaries are a family for
-- each counter, with a sample for each summary in their order.
theorem families_observe {counters : List Counter} (hdistinct : counters.Nodup)
    (first : Summary) (rest : List Summary) :
    families ((first :: rest).flatMap fun summary => counters.map (Counter.observe summary)) =
      counters.map fun c => Family.opened (c.observe first) (rest.map (Counter.observe · c)) := by
  induction counters with
  | nil =>
    have hnone : (first :: rest).flatMap (fun summary => [].map (Counter.observe summary)) = [] :=
      List.flatMap_eq_nil_iff.mpr fun _ _ => rfl
    rw [hnone]
    rfl
  | cons c counters ih =>
    obtain ⟨hnew, hdistinct⟩ := List.nodup_cons.mp hdistinct
    have hsame (summaries : List Summary) :
        (summaries.flatMap fun summary => (c :: counters).map (Counter.observe summary)).filter
          (c.descriptor.name = ·.descriptor.name) = summaries.map (Counter.observe · c) := by
      rw [List.filter_flatMap, List.map_eq_flatMap]
      simp only [filter_observe_same hnew]
    have hother (summaries : List Summary) :
        (summaries.flatMap fun summary => (c :: counters).map (Counter.observe summary)).filter
          (c.descriptor.name ≠ ·.descriptor.name) =
        summaries.flatMap fun summary => counters.map (Counter.observe summary) := by
      rw [List.filter_flatMap]
      simp only [filter_observe_other hnew]
    have hgrouped := families_of_filter (o := c.observe first) rfl
      (hsame (first :: rest)) (hother (first :: rest))
    rw [hgrouped, ih hdistinct]
    rfl

-- The lines of one counter: its help, its type and its samples.
def Counter.block (c : Counter) (samples : List (List Char)) : List (List Char) :=
  ("# HELP ".toList ++ c.descriptor.name.toList ++ ' ' :: c.help.toList) ::
    ("# TYPE ".toList ++ c.descriptor.name.toList ++ ' ' :: "counter".toList) :: samples

def Counter.sampleText (c : Counter) (summary : Summary) : List Char :=
  Metric.sampleText c.descriptor.name.toList (c.observe summary).labels (c.observe summary).value

theorem Counter.readSample_sampleText (c : Counter) (summary : Summary) :
    readSample (c.sampleText summary) = some ⟨c.descriptor.name,
      [("user", summary.user), ("statement", summary.statement)],
      (Binary64.ofNat (c.value summary).toNat).toText⟩ := by
  have hname : ∀ char ∈ c.descriptor.name.toList, endsName char = false :=
    fun char hchar => (c.name_descriptor_plain char hchar).1
  have hlabels : ∀ label ∈ (c.observe summary).labels, '=' ∉ label.1.toList :=
    fun label hlabel => (c.labels_observe_plain summary label hlabel).1
  exact Metric.readSample_sampleText hname hlabels _

theorem Counter.samples_opened (c : Counter) (first : Summary) (rest : List Summary) :
    (Family.opened (c.observe first) (rest.map (Counter.observe · c))).samples =
      (first :: rest).map fun summary => .ofObservation (c.observe summary) := by
  rw [Family.opened, List.map_cons, List.map_cons, List.map_map]
  rfl

theorem Counter.check_opened (c : Counter) (first : Summary) (rest : List Summary) :
    (Family.opened (c.observe first) (rest.map (Counter.observe · c))).check = .ok () := by
  obtain ⟨hname, -, hkind⟩ := c.header_ok
  have hcounter : c.descriptor.kind ≠ .untyped := by
    rw [hkind]
    decide
  exact (if_neg hname).trans (if_neg hcounter)

theorem Counter.oneLine_opened (c : Counter) (first : Summary) (rest : List Summary) :
    (Family.opened (c.observe first) (rest.map (Counter.observe · c))).OneLine := by
  constructor
  case name => exact fun hmem => (c.name_descriptor_plain _ hmem).2 rfl
  case labels =>
    intro sample hsample label hlabel
    rw [c.samples_opened] at hsample
    obtain ⟨summary, -, rfl⟩ := List.mem_map.mp hsample
    exact (c.labels_observe_plain summary label hlabel).2

theorem Counter.lines_opened (c : Counter) (first : Summary) (rest : List Summary) :
    (Family.opened (c.observe first) (rest.map (Counter.observe · c))).lines =
      c.block ((first :: rest).map c.sampleText) := by
  have hhelp : helpText c.descriptor.name.toList c.descriptor.help.toList =
      "# HELP ".toList ++ c.descriptor.name.toList ++ ' ' :: c.help.toList :=
    congrArg (_ ++ ' ' :: ·) c.escapeHelp_help
  have htype : typeText c.descriptor.name.toList c.descriptor.kind =
      "# TYPE ".toList ++ c.descriptor.name.toList ++ ' ' :: "counter".toList :=
    rfl
  generalize hfamily : Family.opened (c.observe first) (rest.map (Counter.observe · c)) = family
  have hname : family.name = c.descriptor.name := hfamily ▸ rfl
  have hdescription : family.help = c.descriptor.help := hfamily ▸ rfl
  have hkind : family.kind = c.descriptor.kind := hfamily ▸ rfl
  have hsamples : family.samples =
      (first :: rest).map fun summary => .ofObservation (c.observe summary) :=
    hfamily ▸ c.samples_opened first rest
  have hshown (summary : Summary) :
      family.shown (.ofObservation (c.observe summary)) = (c.observe summary).value :=
    if_pos hkind.symm
  rw [Family.lines, hname, hdescription, hkind, hsamples, if_neg c.header_ok.2.1, hhelp, htype,
    List.map_map, Counter.block]
  simp only [List.singleton_append, Function.comp_def, hshown]
  rfl

-- The text of a list of summaries has a block for each counter, and every line
-- of a sample is read back to the account and the statement it was made of.
theorem render_observations {summaries : List Summary} (h : summaries ≠ []) :
    ∃ (text : String) (samples : Counter → List (List Char)),
      Metric.render (summaries.flatMap Summary.observations) = .ok text ∧
      text.toList.splitOn '\n' = (Counter.all.flatMap fun c => c.block (samples c)) ++ [[]] ∧
      (Counter.all.flatMap fun c => c.block (samples c)).length = 8 * (2 + summaries.length) ∧
      ∀ c, List.Forall₂ (fun summary line =>
        readSample line = some ⟨c.descriptor.name,
          [("user", summary.user), ("statement", summary.statement)],
          (Binary64.ofNat (c.value summary).toNat).toText⟩ ∧
        ((c.value summary).toNat ≤ 2 ^ 53 →
          (Binary64.ofNat (c.value summary).toNat).toText = toString (c.value summary).toNat))
        summaries (samples c) := by
  obtain ⟨first, rest, rfl⟩ := List.exists_cons_of_ne_nil h
  have hgrouped : families ((first :: rest).flatMap Summary.observations) =
      Counter.all.map fun c => Family.opened (c.observe first) (rest.map (Counter.observe · c)) :=
    families_observe (by decide) first rest
  have hfamily {family : Family}
      (hmem : family ∈ families ((first :: rest).flatMap Summary.observations)) :
      ∃ c, Family.opened (Counter.observe first c) (rest.map (Counter.observe · c)) = family := by
    rw [hgrouped] at hmem
    obtain ⟨c, -, heq⟩ := List.mem_map.mp hmem
    exact ⟨c, heq⟩
  have hcheck : ∀ family ∈ families ((first :: rest).flatMap Summary.observations),
      family.check = .ok () := by
    intro family hmem
    obtain ⟨c, rfl⟩ := hfamily hmem
    exact c.check_opened first rest
  have hline : ∀ family ∈ families ((first :: rest).flatMap Summary.observations),
      family.OneLine := by
    intro family hmem
    obtain ⟨c, rfl⟩ := hfamily hmem
    exact c.oneLine_opened first rest
  obtain ⟨text, hrender, hsplit⟩ := render_lines hcheck hline
  refine ⟨text, fun c => (first :: rest).map c.sampleText, hrender, ?_, ?_, ?_⟩
  · rw [hsplit, hgrouped, List.flatMap_map]
    simp only [Counter.lines_opened]
  · have hblock (c : Counter) : (c.block ((first :: rest).map c.sampleText)).length =
        2 + (first :: rest).length := by
      rw [Counter.block, List.length_cons, List.length_cons, List.length_map]
      omega
    rw [List.length_flatMap]
    simp only [hblock]
    rw [List.map_const', List.sum_replicate_nat]
    rfl
  · intro c
    refine List.forall₂_map_right_iff.mpr (List.forall₂_same.mpr fun summary _ => ?_)
    refine ⟨c.readSample_sampleText summary, fun hexact => ?_⟩
    rw [Binary64.toText, Binary64.text_ofNat hexact]
    rfl

-- An account and a statement that try to leave their line.
def hostile : Summary :=
  ⟨"a\"\x7d 1\nb", "\\\"\n", 1, 2, 3, 4, 5, 6, 7, 8⟩

theorem render_observations_hostile : [hostile] ≠ [] ∧
    ∃ text : String, Metric.render ([hostile].flatMap Summary.observations) = .ok text ∧
      (text.toList.splitOn '\n').length = 8 * (2 + 1) + 1 := by
  have hsome : [hostile] ≠ [] := List.cons_ne_nil _ _
  obtain ⟨text, samples, hrender, hsplit, hlength, -⟩ := render_observations hsome
  refine ⟨hsome, text, hrender, ?_⟩
  rw [hsplit, List.length_append, hlength]
  rfl

end SysExporter.Statement
