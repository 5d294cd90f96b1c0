import SysExporter.Proofs.Binary64.Text
import SysExporter.Proofs.Metric.Reading

namespace SysExporter.Metric

def helpText (name help : List Char) : List Char :=
  "# HELP ".toList ++ name ++ ' ' :: escapeHelp help

def typeText (name : List Char) (kind : ValueType) : List Char :=
  "# TYPE ".toList ++ name ++ ' ' :: kind.name.toList

-- The lines of a family without their ends.
def Family.lines (family : Family) : List (List Char) :=
  (if family.help = "" then [] else [helpText family.name.toList family.help.toList]) ++
    typeText family.name.toList family.kind ::
      family.samples.map fun sample =>
        sampleText family.name.toList sample.labels (family.shown sample)

theorem helpLine_eq (name help : List Char) :
    helpLine name help = helpText name help ++ ['\n'] := rfl

theorem typeLine_eq (name : List Char) (kind : ValueType) :
    typeLine name kind = typeText name kind ++ ['\n'] := rfl

theorem sampleLine_eq (name : List Char) (labels : List (String × String)) (value : Binary64) :
    sampleLine name labels value = sampleText name labels value ++ ['\n'] := rfl

theorem Family.text_eq_lines (family : Family) :
    family.text = family.lines.flatMap (· ++ ['\n']) := by
  simp only [Family.text, header, lines, helpLine_eq, typeLine_eq, sampleLine_eq,
    List.flatMap_append, List.flatMap_cons, List.flatMap_map, List.append_assoc]
  split
  · simp only [List.flatMap_nil, List.nil_append]
  · simp only [List.flatMap_cons, List.flatMap_nil, List.append_assoc, List.append_nil]

theorem newline_not_mem_escapeHelp (text : List Char) : '\n' ∉ escapeHelp text := by
  intro h
  obtain ⟨c, -, hc⟩ := List.mem_flatMap.mp h
  simp only [escapeHelpChar] at hc
  split at hc
  · simp at hc
  · split at hc
    · simp at hc
    · rename_i hne
      exact hne (List.mem_singleton.mp hc).symm

theorem newline_not_mem_escapeLabel (text : List Char) : '\n' ∉ escapeLabel text := by
  intro h
  obtain ⟨c, -, hc⟩ := List.mem_flatMap.mp h
  simp only [escapeLabelChar] at hc
  split at hc
  · simp at hc
  · exact newline_not_mem_escapeHelp [c] (by simpa [escapeHelp] using hc)

theorem newline_not_mem_labelsText {labels : List (String × String)}
    (h : ∀ label ∈ labels, '\n' ∉ label.1.toList) : '\n' ∉ labelsText labels := by
  have htexts : ∀ text ∈ labels.map labelText, '\n' ∉ text := by
    intro text htext
    obtain ⟨label, hmem, rfl⟩ := List.mem_map.mp htext
    simp [labelText, h label hmem, newline_not_mem_escapeLabel]
  have hcomma : '\n' ∉ [','] := by decide
  have hall := Text.not_mem_intercalate hcomma htexts
  cases labels with
  | nil => exact List.not_mem_nil
  | cons label rest =>
    rw [labelsText, List.mem_append, List.mem_cons]
    rintro ((hmem | hmem) | hmem)
    · exact absurd hmem (by decide)
    · exact hall hmem
    · exact absurd (List.mem_singleton.mp hmem) (by decide)
    · simp

theorem newline_not_mem_helpText {name : List Char} (h : '\n' ∉ name) (help : List Char) :
    '\n' ∉ helpText name help := by
  have hword : '\n' ∉ "# HELP ".toList := by decide
  intro hmem
  rcases List.mem_append.mp hmem with hmem | hmem
  · rcases List.mem_append.mp hmem with hmem | hmem
    · exact hword hmem
    · exact h hmem
  · rcases List.mem_cons.mp hmem with hmem | hmem
    · exact absurd hmem (by decide)
    · exact newline_not_mem_escapeHelp help hmem

theorem newline_not_mem_typeText {name : List Char} (h : '\n' ∉ name) (kind : ValueType) :
    '\n' ∉ typeText name kind := by
  have hword : '\n' ∉ "# TYPE ".toList := by decide
  have hkind : '\n' ∉ kind.name.toList := by cases kind <;> decide
  intro hmem
  rcases List.mem_append.mp hmem with hmem | hmem
  · rcases List.mem_append.mp hmem with hmem | hmem
    · exact hword hmem
    · exact h hmem
  · rcases List.mem_cons.mp hmem with hmem | hmem
    · exact absurd hmem (by decide)
    · exact hkind hmem

theorem newline_not_mem_sampleText {name : List Char} {labels : List (String × String)}
    (hname : '\n' ∉ name) (hlabels : ∀ label ∈ labels, '\n' ∉ label.1.toList)
    (value : Binary64) : '\n' ∉ sampleText name labels value := by
  rw [sampleText, List.mem_append, List.mem_append, List.mem_cons]
  rintro ((hmem | hmem) | hmem | hmem)
  · exact hname hmem
  · exact newline_not_mem_labelsText hlabels hmem
  · exact absurd hmem (by decide)
  · exact value.newline_not_mem_text hmem

-- A family without line feeds in its name and its label names. Help and label
-- values may have any.
structure Family.OneLine (family : Family) : Prop where
  name : '\n' ∉ family.name.toList
  labels : ∀ sample ∈ family.samples, ∀ label ∈ sample.labels, '\n' ∉ label.1.toList

theorem Family.OneLine.newline_not_mem {family : Family} (h : family.OneLine) :
    ∀ line ∈ family.lines, '\n' ∉ line := by
  intro line hline
  rcases List.mem_append.mp hline with hhelp | hline
  · split at hhelp
    · simp at hhelp
    · rw [List.mem_singleton.mp hhelp]
      exact newline_not_mem_helpText h.name _
  rcases List.mem_cons.mp hline with htype | hsample
  · rw [htype]
    exact newline_not_mem_typeText h.name _
  · obtain ⟨sample, hmem, rfl⟩ := List.mem_map.mp hsample
    exact newline_not_mem_sampleText h.name (h.labels sample hmem) _

theorem flatMap_eq_intercalate (lines : List (List Char)) :
    lines.flatMap (· ++ ['\n']) = ['\n'].intercalate (lines ++ [[]]) := by
  induction lines with
  | nil => rfl
  | cons line rest ih =>
    rw [List.flatMap_cons, List.cons_append, List.intercalate_cons_of_ne_nil (by simp), ih]

-- Splitting a text of ended lines at the line feeds gives the lines, and
-- nothing after the last of them.
theorem splitOn_lines {lines : List (List Char)} (h : ∀ line ∈ lines, '\n' ∉ line) :
    (lines.flatMap (· ++ ['\n'])).splitOn '\n' = lines ++ [[]] := by
  rw [flatMap_eq_intercalate]
  refine List.splitOn_intercalate '\n' (fun line hline => ?_) (by simp)
  rcases List.mem_append.mp hline with hline | hline
  · exact h line hline
  · rw [List.mem_singleton.mp hline]
    exact List.not_mem_nil

theorem renderFamilies_ok {grouped : List Family}
    (h : ∀ family ∈ grouped, family.check = .ok ()) :
    renderFamilies grouped = .ok (grouped.flatMap Family.text) := by
  induction grouped with
  | nil => rfl
  | cons family rest ih =>
    have hrest := ih fun other hother => h other (List.mem_cons_of_mem _ hother)
    rw [renderFamilies, h family List.mem_cons_self, hrest]
    rfl

theorem render_ok {observations : List Observation}
    (h : ∀ family ∈ families observations, family.check = .ok ()) :
    render observations = .ok (.ofList ((families observations).flatMap Family.text)) := by
  rw [render, renderFamilies_ok h]
  rfl

theorem splitOn_flatMap_text {grouped : List Family} (h : ∀ family ∈ grouped, family.OneLine) :
    (grouped.flatMap Family.text).splitOn '\n' = grouped.flatMap Family.lines ++ [[]] := by
  have hlines : ∀ line ∈ grouped.flatMap Family.lines, '\n' ∉ line := by
    intro line hmem
    obtain ⟨family, hfamily, hmem⟩ := List.mem_flatMap.mp hmem
    exact (h family hfamily).newline_not_mem line hmem
  have htext : grouped.flatMap Family.text =
      (grouped.flatMap Family.lines).flatMap (· ++ ['\n']) := by
    rw [List.flatMap_assoc]
    exact congrArg (List.flatMap · _) (funext Family.text_eq_lines)
  rw [htext, splitOn_lines hlines]

-- What observations are rendered to, line by line.
theorem render_lines {observations : List Observation}
    (hcheck : ∀ family ∈ families observations, family.check = .ok ())
    (hline : ∀ family ∈ families observations, family.OneLine) :
    ∃ text, render observations = .ok text ∧
      text.toList.splitOn '\n' = (families observations).flatMap Family.lines ++ [[]] := by
  refine ⟨_, render_ok hcheck, ?_⟩
  rw [String.toList_ofList, splitOn_flatMap_text hline]

end SysExporter.Metric
