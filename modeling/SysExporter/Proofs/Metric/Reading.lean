import SysExporter.Metric.Exposition
import SysExporter.Proofs.Text.Delimiters

namespace SysExporter.Metric

open SysExporter.Text

-- What a line of a text says about one sample.
structure SampleText where
  name : String
  labels : List (String × String)
  value : String
  deriving DecidableEq, Repr

def readEscape : Char → Option Char
  | '\\' => some '\\'
  | '"' => some '"'
  | 'n' => some '\n'
  | _ => none

-- A label value with its escapes undone, and what follows the closing quote.
def readQuoted : List Char → Option (List Char × List Char)
  | [] => none
  | '"' :: rest => some ([], rest)
  | '\\' :: c :: rest => do
    let plain ← readEscape c
    let (value, after) ← readQuoted rest
    return (plain :: value, after)
  | c :: rest => do
    let (value, after) ← readQuoted rest
    return (c :: value, after)

-- A label, and what follows it.
def readLabel (text : List Char) : Option ((String × String) × List Char) :=
  match text.dropWhile (· != '=') with
  | '=' :: '"' :: rest => do
    let (value, after) ← readQuoted rest
    return ((.ofList (text.takeWhile (· != '=')), .ofList value), after)
  | _ => none

theorem length_of_readQuoted {text value after : List Char}
    (h : readQuoted text = some (value, after)) : after.length < text.length := by
  fun_induction readQuoted text generalizing value after with
  | case1 => cases h
  | case2 rest =>
    cases h
    exact Nat.lt_succ_self _
  | case3 c rest ih =>
    simp only [Option.bind_eq_bind, Option.bind_eq_some_iff, Option.pure_def, Prod.exists] at h
    obtain ⟨_, -, value', after', hrest, heq⟩ := h
    cases heq
    have := ih hrest
    simp only [List.length_cons]
    omega
  | case4 c rest _ _ ih =>
    simp only [Option.bind_eq_bind, Option.bind_eq_some_iff, Option.pure_def, Prod.exists] at h
    obtain ⟨value', after', hrest, heq⟩ := h
    cases heq
    have := ih hrest
    simp only [List.length_cons]
    omega

theorem length_of_readLabel {text after : List Char} {label : String × String}
    (h : readLabel text = some (label, after)) : after.length < text.length := by
  simp only [readLabel] at h
  split at h
  · rename_i rest hdrop
    simp only [Option.bind_eq_bind, Option.bind_eq_some_iff, Option.pure_def, Prod.exists] at h
    obtain ⟨value, after', hquoted, heq⟩ := h
    cases heq
    have hvalue := length_of_readQuoted hquoted
    have hsuffix : (text.dropWhile (· != '=')).length ≤ text.length :=
      (List.dropWhile_suffix _).length_le
    rw [hdrop] at hsuffix
    simp only [List.length_cons] at hsuffix
    omega
  · cases h

-- The labels up to the closing brace, and what follows it.
def readLabels (text : List Char) : Option (List (String × String) × List Char) :=
  match _hlabel : readLabel text with
  | some (label, ',' :: rest) => do
    let (labels, after) ← readLabels rest
    return (label :: labels, after)
  | some (label, '\x7d' :: rest) => some ([label], rest)
  | _ => none
termination_by text.length
decreasing_by exact Nat.lt_of_succ_lt (length_of_readLabel _hlabel)

theorem readLabels_of_comma {text rest after : List Char} {label : String × String}
    {labels : List (String × String)} (hlabel : readLabel text = some (label, ',' :: rest))
    (hrest : readLabels rest = some (labels, after)) :
    readLabels text = some (label :: labels, after) := by
  rw [readLabels]
  split <;> simp_all

theorem readLabels_of_brace {text rest : List Char} {label : String × String}
    (hlabel : readLabel text = some (label, '\x7d' :: rest)) :
    readLabels text = some ([label], rest) := by
  rw [readLabels]
  split <;> simp_all

-- The name of a sample ends at its labels or, if it has none, at its value.
def endsName (c : Char) : Bool :=
  c = '\x7b' || c = ' '

def readSample (line : List Char) : Option SampleText :=
  let name := String.ofList (line.takeWhile (!endsName ·))
  match line.dropWhile (!endsName ·) with
  | ' ' :: value => some ⟨name, [], .ofList value⟩
  | '\x7b' :: rest =>
    match readLabels rest with
    | some (labels, ' ' :: value) => some ⟨name, labels, .ofList value⟩
    | _ => none
  | _ => none

theorem readQuoted_escapeLabel (text rest : List Char) :
    readQuoted (escapeLabel text ++ '"' :: rest) = some (text, rest) := by
  induction text with
  | nil => rfl
  | cons c text ih =>
    have hstep : escapeLabel (c :: text) ++ '"' :: rest =
        escapeLabelChar c ++ (escapeLabel text ++ '"' :: rest) := by
      simp [escapeLabel]
    rw [hstep]
    by_cases hquote : c = '"'
    · subst hquote
      simp [escapeLabelChar, readQuoted, readEscape, ih]
    by_cases hslash : c = '\\'
    · subst hslash
      simp [escapeLabelChar, escapeHelpChar, readQuoted, readEscape, ih]
    by_cases hline : c = '\n'
    · subst hline
      simp [escapeLabelChar, escapeHelpChar, readQuoted, readEscape, ih]
    · simp [escapeLabelChar, escapeHelpChar, hquote, hslash, hline, readQuoted, ih]

theorem readLabel_labelText {label : String × String} (h : '=' ∉ label.1.toList)
    (rest : List Char) : readLabel (labelText label ++ rest) = some (label, rest) := by
  have hname : ∀ c ∈ label.1.toList, (c != '=') = true := by
    intro c hc
    exact bne_iff_ne.mpr fun heq => h (heq ▸ hc)
  have hend : ('=' != '=') = false := by decide
  have htext : labelText label ++ rest =
      label.1.toList ++ '=' :: '"' :: (escapeLabel label.2.toList ++ '"' :: rest) := by
    simp [labelText]
  simp only [readLabel, htext, dropWhile_append_cons hname hend,
    takeWhile_append_cons hname hend, readQuoted_escapeLabel]
  simp

-- The labels of a sample are read back one by one, whatever their values hold.
theorem readLabels_labelText {labels : List (String × String)} (hlabels : labels ≠ [])
    (h : ∀ label ∈ labels, '=' ∉ label.1.toList) (rest : List Char) :
    readLabels ([','].intercalate (labels.map labelText) ++ '\x7d' :: rest) =
      some (labels, rest) := by
  induction labels with
  | nil => exact absurd rfl hlabels
  | cons label labels ih =>
    have hlabel := readLabel_labelText (h label List.mem_cons_self)
    cases labels with
    | nil =>
      have htext : [','].intercalate ([label].map labelText) ++ '\x7d' :: rest =
          labelText label ++ '\x7d' :: rest := by simp
      rw [htext]
      exact readLabels_of_brace (hlabel _)
    | cons next labels =>
      have htext : [','].intercalate ((label :: next :: labels).map labelText) ++ '\x7d' :: rest =
          labelText label ++ ',' :: ([','].intercalate ((next :: labels).map labelText) ++
            '\x7d' :: rest) := by
        simp [List.intercalate]
      have hrest := ih (by simp) fun other hother => h other (List.mem_cons_of_mem _ hother)
      rw [htext]
      exact readLabels_of_comma (hlabel _) hrest

-- What a sample is written as, without the end of its line.
def sampleText (name : List Char) (labels : List (String × String)) (value : Binary64) :
    List Char :=
  name ++ labelsText labels ++ ' ' :: value.text

-- A sample line tells the name, every label and the text of the value.
theorem readSample_sampleText {name : String} {labels : List (String × String)}
    (hname : ∀ c ∈ name.toList, endsName c = false)
    (hlabels : ∀ label ∈ labels, '=' ∉ label.1.toList) (value : Binary64) :
    readSample (sampleText name.toList labels value) = some ⟨name, labels, value.toText⟩ := by
  have hname : ∀ c ∈ name.toList, (!endsName c) = true := by
    intro c hc
    rw [hname c hc]
    rfl
  cases labels with
  | nil =>
    have htext : sampleText name.toList [] value = name.toList ++ ' ' :: value.text := by
      simp [sampleText, labelsText]
    have hend : (!endsName ' ') = false := by decide
    simp [readSample, htext, dropWhile_append_cons hname hend,
      takeWhile_append_cons hname hend, Binary64.toText]
  | cons label labels =>
    have htext : sampleText name.toList (label :: labels) value =
        name.toList ++ '\x7b' :: ([','].intercalate ((label :: labels).map labelText) ++
          '\x7d' :: ' ' :: value.text) := by
      simp [sampleText, labelsText]
    have hend : (!endsName '\x7b') = false := by decide
    have hread := readLabels_labelText (by simp) hlabels (' ' :: value.text)
    simp only [readSample, htext, dropWhile_append_cons hname hend,
      takeWhile_append_cons hname hend, hread, Binary64.toText, String.ofList_toList]

end SysExporter.Metric
