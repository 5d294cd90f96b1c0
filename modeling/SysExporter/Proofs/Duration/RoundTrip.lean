import Mathlib.Algebra.Order.BigOperators.Group.List
import Mathlib.Algebra.Order.Group.Nat
import SysExporter.Proofs.Duration.Counts
import SysExporter.Proofs.Duration.Seconds
import SysExporter.Proofs.Result

namespace SysExporter.Duration

open Text

theorem code_of_isUnitLetter {c : Char} (h : isUnitLetter c = true) :
    (65 ≤ c.toNat ∧ c.toNat ≤ 122) ∨ c.toNat = 181 := by
  simp only [isUnitLetter, Bool.or_eq_true, Bool.and_eq_true, decide_eq_true_eq, beq_iff_eq,
    Char.le_def, UInt32.le_iff_toNat_le] at h
  rcases h with (⟨hlow, hhigh⟩ | ⟨hlow, hhigh⟩) | rfl
  · exact .inl ⟨Nat.le_trans (by decide) hlow, hhigh⟩
  · exact .inl ⟨hlow, Nat.le_trans hhigh (by decide)⟩
  · exact .inr rfl

theorem digitValue?_of_isUnitLetter {c : Char} (h : isUnitLetter c = true) :
    digitValue? c = none := by
  have hcode := code_of_isUnitLetter h
  refine if_neg fun hdigit => ?_
  have hbounds : 48 ≤ c.toNat ∧ c.toNat ≤ 57 := by
    simpa [isDigit, Char.le_def, UInt32.le_iff_toNat_le] using hdigit
  omega

theorem isBlank_of_isUnitLetter {c : Char} (h : isUnitLetter c = true) : isBlank c = false := by
  have hcode := code_of_isUnitLetter h
  simp only [isBlank, Bool.or_eq_false_iff, Bool.and_eq_false_iff, decide_eq_false_iff_not,
    beq_eq_false_iff_ne]
  omega

-- Every name of a unit is made of letters.
theorem letters_of_ofText? {name : List Char} {u : TimeUnit} (h : TimeUnit.ofText? name = some u) :
    name ≠ [] ∧ ∀ c ∈ name, isUnitLetter c = true := by
  have hspelled : String.ofList name ∈ u.spellings := by
    simpa using List.find?_some h
  have hall : ∀ u ∈ TimeUnit.all, ∀ s ∈ u.spellings,
      s.toList ≠ [] ∧ s.toList.all isUnitLetter = true := by
    decide
  have hletters := hall u (by cases u <;> decide) _ hspelled
  rwa [String.toList_ofList, List.all_eq_true] at hletters

namespace Mode

variable {value : Nat} {digits : Option Fraction}

-- The letters of a unit are gathered one by one.
theorem scan_letters {name : List Char} (h : ∀ c ∈ name, isUnitLetter c = true) (offset : Nat)
    (letters rest : List Char) :
    ∃ later, (unit value digits letters).scan offset (name ++ rest) =
      (unit value digits (name.reverse ++ letters)).scan later rest := by
  induction name generalizing offset letters with
  | nil => exact ⟨offset, rfl⟩
  | cons c others ih =>
    obtain ⟨hc, hothers⟩ := List.forall_mem_cons.mp h
    have hstep : (unit value digits letters).step offset c =
        .ok (unit value digits (c :: letters), none) := by
      simp [step, digitValue?_of_isUnitLetter hc, isBlank_of_isUnitLetter hc, hc]
    obtain ⟨later, hlater⟩ := ih hothers (offset + c.utf8Size) (c :: letters)
    refine ⟨later, ?_⟩
    rw [List.cons_append, scan_cons hstep, hlater, List.reverse_cons, List.append_assoc]
    rfl

-- Up to the end of its unit a count is not complete.
theorem scan_count (c : Count) (h : c.number < UInt64.size) (offset start : Nat)
    (rest : List Char) :
    ∃ later, (between start).scan offset (c.text ++ rest) =
      (unit c.number none c.name.toList.reverse).scan later rest := by
  obtain ⟨hne, hletters⟩ := letters_of_ofText? c.named
  obtain ⟨first, others, hname⟩ := List.exists_cons_of_ne_nil hne
  rw [hname, List.forall_mem_cons] at hletters
  obtain ⟨hfirst, hothers⟩ := hletters
  have hstep (offset : Nat) :
      (whole c.number).step offset first = .ok (unit c.number none [first], none) := by
    simp [step, digitValue?_of_isUnitLetter hfirst, isBlank_of_isUnitLetter hfirst, hfirst]
  obtain ⟨later, hlater⟩ := scan_letters hothers _ [first] rest
  refine ⟨later, ?_⟩
  rw [Count.text, List.append_assoc, scan_toDigits h, hname, List.cons_append,
    scan_cons (hstep _), hlater, List.reverse_cons]

-- A count is complete at the end of the text or at the blank before the next one.
theorem scan_counts (cs : List Count) (h : ∀ c ∈ cs, c.number < UInt64.size)
    (offset start : Nat) :
    (between start).scan offset ([' '].intercalate (cs.map Count.text)) =
      (cs.map Count.quantity, none) := by
  induction cs generalizing offset start with
  | nil => rfl
  | cons c rest ih =>
    obtain ⟨hc, hrest⟩ := List.forall_mem_cons.mp h
    have hlast : [c.quantity] = [⟨c.number, none, c.name.toList.reverse.reverse⟩] := by
      rw [List.reverse_reverse]
      rfl
    cases rest with
    | nil =>
      obtain ⟨later, hlater⟩ := scan_count c hc offset start []
      rw [List.append_nil] at hlater
      rw [List.map_singleton, List.intercalate_singleton, hlater, List.map_singleton, hlast]
      rfl
    | cons next others =>
      obtain ⟨later, hlater⟩ := scan_count c hc offset start
        (' ' :: [' '].intercalate ((next :: others).map Count.text))
      have hgap : (unit c.number none c.name.toList.reverse).step later ' ' =
          .ok (between (later + ' '.utf8Size), some c.quantity) := by
        simp [step, digitValue?, isDigit, isBlank, Count.quantity]
      rw [List.map_cons, List.map_cons, List.intercalate_cons_cons, List.append_assoc,
        List.singleton_append, ← List.map_cons, hlater, scan, hgap]
      simp only [ih hrest]
      rfl

end Mode

theorem Count.le_total (value : TimeUnit → Nat) {c : Count} {cs : List Count} (h : c ∈ cs) :
    c.number * value c.unit ≤ Count.total value cs :=
  List.le_sum_of_mem (List.mem_map_of_mem h)

theorem number_lt_of_mem_written {d : Duration} {c : Count} (h : c ∈ d.written) :
    c.number < UInt64.size := by
  have hseconds := Count.le_total TimeUnit.inSeconds h
  have hnanos := Count.le_total TimeUnit.nanos h
  rw [total_inSeconds_written] at hseconds
  rw [total_nanos_written] at hnanos
  have hunit : 1 ≤ c.unit.inSeconds ∨ 1 ≤ c.unit.nanos := by cases c.unit <;> decide
  rcases hunit with hone | hone
  · calc c.number ≤ c.number * c.unit.inSeconds := Nat.le_mul_of_pos_right _ hone
      _ ≤ d.seconds := hseconds
      _ < UInt64.size := d.seconds_lt
  · calc c.number ≤ c.number * c.unit.nanos := Nat.le_mul_of_pos_right _ hone
      _ ≤ d.nanos := hnanos
      _ < 1000000000 := d.nanos_lt
      _ < UInt64.size := by decide

theorem toList_toText {d : Duration} (h : d ≠ .zero) :
    d.toText.toList = [' '].intercalate (d.written.map Count.text) := by
  have hzero : ¬ d.isZero = true := fun hzero => h (isZero_iff.mp hzero)
  rw [toText, if_neg hzero, String.toList_intercalate, map_countTexts]
  rfl

-- A text that begins with a digit and ends with a letter.
def Framed (text : List Char) : Prop :=
  ∃ first middle last, text = first :: (middle ++ [last]) ∧ first.isDigit = true ∧
    isUnitLetter last = true

theorem Count.framed (c : Count) : Framed c.text := by
  obtain ⟨hne, hletters⟩ := letters_of_ofText? c.named
  have hdigits : Nat.toDigits 10 c.number ≠ [] := Nat.toDigits_ne_nil
  obtain ⟨first, digits, hnumber⟩ := List.exists_cons_of_ne_nil hdigits
  obtain ⟨letters, last, hname⟩ := (List.eq_nil_or_concat' c.name.toList).resolve_left hne
  refine ⟨first, digits ++ letters, last, ?_, ?_, ?_⟩
  · rw [text, hnumber, hname, List.cons_append, List.append_assoc]
  · exact Nat.isDigit_of_mem_toDigits (by decide) (by decide) (hnumber ▸ List.mem_cons_self)
  · exact hletters last (by rw [hname]; exact List.mem_concat_self)

theorem framed_intercalate {cs : List Count} (h : cs ≠ []) :
    Framed ([' '].intercalate (cs.map Count.text)) := by
  induction cs with
  | nil => exact absurd rfl h
  | cons c rest ih =>
    cases rest with
    | nil => simpa using c.framed
    | cons next others =>
      obtain ⟨first, middle, last, htext, hfirst, -⟩ := c.framed
      obtain ⟨first', middle', last', htext', -, hlast⟩ := ih (List.cons_ne_nil _ _)
      refine ⟨first, middle ++ last :: ' ' :: first' :: middle', last', ?_, hfirst, hlast⟩
      rw [List.map_cons, List.map_cons, List.intercalate_cons_cons, ← List.map_cons, htext,
        htext']
      simp

-- What is printed is read again.
theorem parse_toText (d : Duration) : parse d.toText.toList = .ok d := by
  by_cases h : d = .zero
  · rw [h]
    decide
  obtain ⟨first, middle, last, htext, hfirst, hlast⟩ := framed_intercalate (written_ne_nil h)
  have hne : d.toText.toList ≠ ['0'] := by
    rw [toList_toText h, htext]
    simp
  have hscan : Mode.scan 0 (.between 0) d.toText.toList =
      (d.written.map Count.quantity, none) := by
    rw [toList_toText h]
    exact Mode.scan_counts _ (fun c => number_lt_of_mem_written) 0 0
  have hsome : (d.written.map Count.quantity).isEmpty = false := by
    simpa using written_ne_nil h
  simp only [parse, hne, if_false, hscan, foldlM_addQuantity_written, hsome]
  rfl

theorem parseTimeout_padding {d : Duration} (h : d ≠ .zero) {before after : List Char}
    (hbefore : ∀ c ∈ before, isBlank c = true) (hafter : ∀ c ∈ after, isBlank c = true) :
    parseTimeout (.ofList (before ++ d.toText.toList ++ after)) = .ok d := by
  obtain ⟨first, middle, last, htext, hfirst, hlast⟩ := framed_intercalate (written_ne_nil h)
  have htrim : trim (before ++ d.toText.toList ++ after) = d.toText.toList := by
    rw [toList_toText h, htext]
    exact trim_padding_cons hbefore hafter (isBlank_eq_false_of_isDigit hfirst)
      (isBlank_of_isUnitLetter hlast) middle
  have hzero : ¬ d.isZero = true := fun hzero => h (isZero_iff.mp hzero)
  rw [parseTimeout, String.toList_ofList, htrim, parse_toText]
  exact if_neg hzero

theorem ne_zero_of_parseTimeout {text : String} {d : Duration} (h : parseTimeout text = .ok d) :
    d ≠ .zero := by
  obtain ⟨read, -, hread⟩ := bind_eq_ok_iff.mp h
  split at hread
  · cases hread
  · next hzero =>
    cases hread
    exact fun heq => hzero (isZero_iff.mpr heq)

end SysExporter.Duration
