import SysExporter.Proofs.Binary64.Zero
import SysExporter.Proofs.Metric.Series

namespace SysExporter.Metric

section

variable (observations : List Observation)

-- The kind that the header of a name declares: that of the first observation.
def declaredKind (name : String) : Option ValueType :=
  (named name observations).head?.map (·.descriptor.kind)

-- What is shown of an observation: its value if it is of the kind that is declared
-- for its name, and zero otherwise.
def shownValue (o : Observation) : Binary64 :=
  if declaredKind observations o.descriptor.name = some o.descriptor.kind then o.value else .zero

-- What the line of an observation is read to.
def shownSample (o : Observation) : SampleText :=
  ⟨o.descriptor.name, o.labels, (shownValue observations o).toText⟩

end

section

variable {observations : List Observation} {family : Family}

theorem declaredKind_family (h : family ∈ families observations) :
    declaredKind observations family.name = some family.kind := by
  obtain ⟨first, later, hnamed, heq⟩ := named_of_mem_families h
  rw [declaredKind, hnamed, heq]
  rfl

theorem shown_ofObservation (h : family ∈ families observations) {o : Observation}
    (ho : o ∈ named family.name observations) :
    family.shown (.ofObservation o) = shownValue observations o := by
  rw [shownValue, name_of_mem_named ho, declaredKind_family h, Family.shown]
  by_cases hkind : o.descriptor.kind = family.kind
  · rw [if_pos (congrArg some hkind.symm)]
    exact if_pos hkind
  · rw [if_neg fun heq => hkind (Option.some.inj heq).symm]
    exact if_neg hkind

-- A family is written with a line for each of its observations.
theorem text_family (h : family ∈ families observations) :
    family.text = family.header ++ (named family.name observations).flatMap fun o =>
      sampleLine o.descriptor.name.toList o.labels (shownValue observations o) := by
  rw [Family.text, samples_family h, List.flatMap_map]
  refine congrArg _ (List.flatMap_congr fun o ho => ?_)
  rw [shown_ofObservation h ho, name_of_mem_named ho]
  rfl

theorem sampleTexts_family (h : family ∈ families observations) :
    family.sampleTexts = (named family.name observations).map fun o =>
      sampleText o.descriptor.name.toList o.labels (shownValue observations o) := by
  rw [Family.sampleTexts, samples_family h, List.map_map]
  refine List.map_congr_left fun o ho => ?_
  rw [Function.comp_apply, shown_ofObservation h ho, name_of_mem_named ho]
  rfl

theorem check_family
    (writable : ∀ o ∈ observations, o.descriptor.name ≠ "" ∧ o.descriptor.kind ≠ .untyped)
    (h : family ∈ families observations) : family.check = .ok () := by
  obtain ⟨first, later, rfl, hfirst, -⟩ := exists_of_mem_families h
  obtain ⟨hname, hkind⟩ := writable first hfirst
  exact (if_neg hname).trans (if_neg hkind)

end

theorem shownValue_eq_value {observations : List Observation} {o : Observation}
    (h : declaredKind observations o.descriptor.name = some o.descriptor.kind) :
    shownValue observations o = o.value :=
  if_pos h

-- An observation of another kind than the declared one is misstated, unless its value
-- is zero.
theorem toText_shownValue_eq_iff (observations : List Observation) (o : Observation) :
    (shownValue observations o).toText = o.value.toText ↔
      declaredKind observations o.descriptor.name = some o.descriptor.kind ∨ o.value = .zero := by
  constructor
  · intro h
    by_cases hkind : declaredKind observations o.descriptor.name = some o.descriptor.kind
    · exact .inl hkind
    · rw [shownValue, if_neg hkind] at h
      exact .inr (Binary64.text_eq_text_zero_iff.mp (String.ofList_injective h).symm)
  · rintro (hkind | hzero)
    · rw [shownValue_eq_value hkind]
    · rw [shownValue, hzero, ite_self]

-- A descriptor whose name and labels do not get in the way of reading a line.
structure Descriptor.Legible (d : Descriptor) : Prop where
  name : ∀ c ∈ d.name.toList, endsName c = false ∧ c ≠ '\n' ∧ c ≠ '#'
  labels : ∀ label ∈ d.labels, '=' ∉ label.toList ∧ '\n' ∉ label.toList

namespace Descriptor.Legible

variable {o : Observation} (h : o.descriptor.Legible)
include h

theorem label {label : String × String} (hlabel : label ∈ o.labels) :
    '=' ∉ label.1.toList ∧ '\n' ∉ label.1.toList :=
  h.labels label.1 (List.of_mem_zip hlabel).1

theorem readSample_sampleText (value : Binary64) :
    readSample (sampleText o.descriptor.name.toList o.labels value) =
      some ⟨o.descriptor.name, o.labels, value.toText⟩ :=
  Metric.readSample_sampleText (fun c hc => (h.name c hc).1)
    (fun _ hlabel => (h.label hlabel).1) value

theorem isSample_sampleText (hname : o.descriptor.name ≠ "") (value : Binary64) :
    isSample (sampleText o.descriptor.name.toList o.labels value) = true := by
  cases hchars : o.descriptor.name.toList with
  | nil => exact absurd (String.toList_eq_nil_iff.mp hchars) hname
  | cons c rest =>
    have hc : c ≠ '#' := (h.name c (hchars ▸ List.mem_cons_self)).2.2
    simp [isSample, sampleText, hc]

end Descriptor.Legible

section

variable {observations : List Observation}
  (writable : ∀ o ∈ observations, o.descriptor.name ≠ "" ∧ o.descriptor.kind ≠ .untyped)
  (legible : ∀ o ∈ observations, o.descriptor.Legible)
include legible

theorem oneLine_family {family : Family} (h : family ∈ families observations) :
    family.OneLine := by
  obtain ⟨first, later, hfamily, hfirst, -⟩ := exists_of_mem_families h
  constructor
  case name =>
    intro hmem
    rw [hfamily] at hmem
    exact ((legible first hfirst).name _ hmem).2.1 rfl
  case labels =>
    intro sample hsample label hlabel
    rw [samples_family h] at hsample
    obtain ⟨o, ho, rfl⟩ := List.mem_map.mp hsample
    exact ((legible o (List.mem_filter.mp ho).1).label hlabel).2

include writable

theorem readSample_lines_family {family : Family} (h : family ∈ families observations) :
    (family.lines.filter isSample).map readSample =
      (named family.name observations).map fun o => some (shownSample observations o) := by
  have hmem {o : Observation} (ho : o ∈ named family.name observations) : o ∈ observations :=
    (List.mem_filter.mp ho).1
  have hsamples : ∀ line ∈ family.sampleTexts, isSample line = true := by
    intro line hline
    rw [sampleTexts_family h] at hline
    obtain ⟨o, ho, rfl⟩ := List.mem_map.mp hline
    exact (legible o (hmem ho)).isSample_sampleText (writable o (hmem ho)).1 _
  rw [Family.filter_lines_of_isSample hsamples, sampleTexts_family h, List.map_map]
  exact List.map_congr_left fun o ho => (legible o (hmem ho)).readSample_sampleText _

-- Read line by line, a text has one sample for each observation.
theorem readSample_lines_perm :
    ((((families observations).flatMap Family.lines ++ [[]]).filter isSample).map readSample).Perm
      (observations.map fun o => some (shownSample observations o)) := by
  have hlast : [([] : List Char)].filter isSample = [] := rfl
  have hlines : ((families observations).flatMap fun family =>
      (family.lines.filter isSample).map readSample) =
      (families observations).flatMap fun family =>
        (named family.name observations).map fun o => some (shownSample observations o) :=
    List.flatMap_congr fun family => readSample_lines_family writable legible
  rw [List.filter_append, hlast, List.append_nil, List.filter_flatMap, List.map_flatMap, hlines,
    ← List.map_flatMap]
  exact (flatMap_named_perm observations).map _

end

-- Counters and gauges that have names are always written, each observation on one
-- sample line of its name with its own labels. The line shows the value of the
-- observation if it is of the kind of the first observation of that name. If it is
-- not, the line shows zero.
theorem render_shows {observations : List Observation}
    (writable : ∀ o ∈ observations, o.descriptor.name ≠ "" ∧ o.descriptor.kind ≠ .untyped) :
    ∃ text, render observations = .ok text ∧
      text.toList = ((families observations).flatMap fun family =>
        family.header ++
          (observations.filter (family.name = ·.descriptor.name)).flatMap fun o =>
            sampleLine o.descriptor.name.toList o.labels (shownValue observations o)) ∧
      ((families observations).flatMap fun family =>
        observations.filter (family.name = ·.descriptor.name)).Perm observations ∧
      (∀ o ∈ observations, (shownValue observations o).toText = o.value.toText ↔
        declaredKind observations o.descriptor.name = some o.descriptor.kind ∨
          o.value = .zero) ∧
      ((∀ o ∈ observations, o.descriptor.Legible) →
        (((text.toList.splitOn '\n').filter isSample).map readSample).Perm
          (observations.map fun o =>
            some ⟨o.descriptor.name, o.labels, (shownValue observations o).toText⟩)) := by
  refine ⟨_, render_ok fun family => check_family writable, ?_, flatMap_named_perm observations,
    fun o _ => toText_shownValue_eq_iff observations o, fun legible => ?_⟩
  · rw [String.toList_ofList]
    exact List.flatMap_congr fun family hfamily => text_family hfamily
  · rw [String.toList_ofList, splitOn_flatMap_text fun family => oneLine_family legible]
    exact readSample_lines_perm writable legible

-- A counter and a gauge of one name.
def mixed : List Observation :=
  [⟨⟨"dup", "first", [], .counter⟩, .ofNat 1, [], rfl⟩,
    ⟨⟨"dup", "second", [], .gauge⟩, .ofNat 2, [], rfl⟩]

theorem writable_mixed :
    ∀ o ∈ mixed, o.descriptor.name ≠ "" ∧ o.descriptor.kind ≠ .untyped := by
  decide

theorem legible_mixed : ∀ o ∈ mixed, o.descriptor.Legible := by
  have hname : ∀ c ∈ "dup".toList, endsName c = false ∧ c ≠ '\n' ∧ c ≠ '#' := by
    simp [endsName]
  intro o ho
  rcases List.mem_cons.mp ho with rfl | ho
  · exact ⟨hname, by simp⟩
  · rw [List.mem_singleton.mp ho]
    exact ⟨hname, by simp⟩

theorem text_mixed : (Binary64.ofNat 1).text = ['1'] ∧ (Binary64.ofNat 2).text = ['2'] :=
  ⟨Binary64.text_ofNat (by decide), Binary64.text_ofNat (by decide)⟩

theorem render_shows_mixed :
    (∀ o ∈ mixed, o.descriptor.name ≠ "" ∧ o.descriptor.kind ≠ .untyped) ∧
    ∃ text, render mixed = .ok text ∧
      (((text.toList.splitOn '\n').filter isSample).map readSample).Perm
        [some ⟨"dup", [], "1"⟩, some ⟨"dup", [], "0"⟩] := by
  obtain ⟨text, hrender, -, -, -, hread⟩ := render_shows writable_mixed
  have hsamples : mixed.map (fun o => some (shownSample mixed o)) =
      [some ⟨"dup", [], (Binary64.ofNat 1).toText⟩, some ⟨"dup", [], Binary64.zero.toText⟩] := rfl
  have hone : (Binary64.ofNat 1).toText = "1" := congrArg String.ofList text_mixed.1
  have hzero : Binary64.zero.toText = "0" := by decide
  refine ⟨writable_mixed, text, hrender, ?_⟩
  rw [← hone, ← hzero, ← hsamples]
  exact hread legible_mixed

-- The gauge has the value two, but its line shows zero.
theorem render_mixed :
    render mixed = .ok "# HELP dup first\n# TYPE dup counter\ndup 1\ndup 0\n" ∧
    mixed.map (·.value.toText) = ["1", "2"] := by
  have hfamilies : families mixed =
      [⟨"dup", "first", .counter, [⟨[], .counter, .ofNat 1⟩, ⟨[], .gauge, .ofNat 2⟩]⟩] := rfl
  have hkind : ValueType.gauge ≠ .counter := by decide
  have hzero : Binary64.zero.text = ['0'] := by decide
  have htext : (families mixed).flatMap Family.text =
      "# HELP dup first\n# TYPE dup counter\ndup 1\ndup 0\n".toList := by
    rw [hfamilies, List.flatMap_singleton, Family.text]
    simp only [List.flatMap_cons, List.flatMap_nil, Family.shown, sampleLine, if_true,
      if_neg hkind, hzero, text_mixed.1]
    decide
  constructor
  · rw [render_ok fun family => check_family writable_mixed, htext, String.ofList_toList]
  · simp [mixed, Binary64.toText, text_mixed.1, text_mixed.2]

end SysExporter.Metric
