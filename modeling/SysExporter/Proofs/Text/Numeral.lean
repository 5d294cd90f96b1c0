import SysExporter.Proofs.Text.Delimiters
import SysExporter.Text.Numeral

namespace SysExporter.Text

-- Decimal digits, at least one, that write a number. Any number of zeros may stand
-- in front.
structure Digits (n : Nat) (text : List Char) : Prop where
  nonempty : text ≠ []
  digit : ∀ c ∈ text, c.isDigit = true
  value : Nat.ofDigitChars 10 text 0 = n

-- The digits of a number, with or without a plus sign.
inductive Numeral (n : Nat) : List Char → Prop where
  | plain {text : List Char} (digits : Digits n text) : Numeral n text
  | signed {text : List Char} (digits : Digits n text) : Numeral n ('+' :: text)

-- A numeral between blanks.
def Padded (n : Nat) (text : List Char) : Prop :=
  ∃ before numeral after, text = before ++ numeral ++ after ∧ Numeral n numeral ∧
    (∀ c ∈ before, isBlank c = true) ∧ (∀ c ∈ after, isBlank c = true)

theorem digits_toDigits (n zeros : Nat) :
    Digits n (List.replicate zeros '0' ++ Nat.toDigits 10 n) where
  nonempty := by simp [Nat.toDigits_ne_nil]
  digit c hc := by
    rcases List.mem_append.mp hc with hzero | hdigit
    · rw [List.eq_of_mem_replicate hzero]
      rfl
    · exact Nat.isDigit_of_mem_toDigits (by decide) (by decide) hdigit
  value := by
    rw [Nat.ofDigitChars_append, Nat.ofDigitChars_replicate_zero, Nat.mul_zero,
      Nat.ofDigitChars_ten_toDigits]

theorem numeral_toDigits {sign : List Char} (h : sign = [] ∨ sign = ['+']) (n zeros : Nat) :
    Numeral n (sign ++ (List.replicate zeros '0' ++ Nat.toDigits 10 n)) := by
  rcases h with rfl | rfl
  · exact .plain (digits_toDigits n zeros)
  · exact .signed (digits_toDigits n zeros)

theorem le_ofDigitChars (digits : List Char) (start : Nat) :
    start ≤ Nat.ofDigitChars 10 digits start := by
  have hpower : 1 ≤ 10 ^ digits.length := Nat.one_le_pow _ _ (by decide)
  have hmul : 1 * start ≤ 10 ^ digits.length * start := Nat.mul_le_mul_right start hpower
  rw [Nat.ofDigitChars_eq_ofDigitChars_zero]
  omega

theorem readDigits_cons_of_not_isDigit {c : Char} (h : c.isDigit = false) (bound value : Nat)
    (rest : List Char) : readDigits bound value (c :: rest) = .error .invalidDigit := by
  have hvalue : digitValue? c = none := if_neg (Bool.eq_false_iff.mp h)
  rw [readDigits, hvalue]

theorem readDigits_cons_of_isDigit {c : Char} (h : c.isDigit = true) (bound value : Nat)
    (rest : List Char) :
    readDigits bound value (c :: rest) =
      if value * 10 + (c.toNat - '0'.toNat) < bound then
        readDigits bound (value * 10 + (c.toNat - '0'.toNat)) rest
      else .error .tooLarge := by
  have hvalue : digitValue? c = some (c.toNat - '0'.toNat) := if_pos h
  rw [readDigits, hvalue]

-- The induction is on the digits that are left. A number that has reached the bound
-- never falls below it again.
theorem readDigits_eq_ok_iff {bound value n : Nat} {digits : List Char} (h : value < bound) :
    readDigits bound value digits = .ok n ↔
      (∀ c ∈ digits, c.isDigit = true) ∧ Nat.ofDigitChars 10 digits value = n ∧ n < bound := by
  induction digits generalizing value with
  | nil =>
    rw [readDigits, Except.ok.injEq, Nat.ofDigitChars_nil]
    constructor
    · rintro rfl
      exact ⟨by simp, rfl, h⟩
    · exact fun ⟨_, heq, _⟩ => heq
  | cons c rest ih =>
    by_cases hc : c.isDigit = true
    · rw [readDigits_cons_of_isDigit hc, Nat.ofDigitChars_cons, Nat.mul_comm 10 value]
      by_cases hnext : value * 10 + (c.toNat - '0'.toNat) < bound
      · rw [if_pos hnext, ih hnext, List.forall_mem_cons, and_iff_right hc]
      · rw [if_neg hnext]
        have hle := le_ofDigitChars rest (value * 10 + (c.toNat - '0'.toNat))
        constructor
        · intro hfault
          cases hfault
        · rintro ⟨-, rfl, hlt⟩
          omega
    · rw [readDigits_cons_of_not_isDigit (by simpa using hc)]
      constructor
      · intro hfault
        cases hfault
      · exact fun ⟨hall, _⟩ => absurd (hall c List.mem_cons_self) hc

theorem readDigits_zero_eq_ok_iff {bound n : Nat} {text : List Char} (hbound : 0 < bound)
    (hne : text ≠ []) : readDigits bound 0 text = .ok n ↔ Digits n text ∧ n < bound := by
  rw [readDigits_eq_ok_iff hbound]
  constructor
  · exact fun ⟨hall, hvalue, hlt⟩ => ⟨⟨hne, hall, hvalue⟩, hlt⟩
  · exact fun ⟨hdigits, hlt⟩ => ⟨hdigits.digit, hdigits.value, hlt⟩

theorem numeral_plus_iff {n : Nat} {text : List Char} :
    Numeral n ('+' :: text) ↔ Digits n text := by
  constructor
  · intro h
    cases h with
    | plain digits => exact absurd (digits.digit '+' List.mem_cons_self) (by decide)
    | signed digits => exact digits
  · exact .signed

theorem numeral_iff_of_ne {n : Nat} {c : Char} {rest : List Char} (hc : c ≠ '+') :
    Numeral n (c :: rest) ↔ Digits n (c :: rest) := by
  constructor
  · intro h
    cases h with
    | plain digits => exact digits
    | signed digits => exact absurd rfl hc
  · exact .plain

theorem numeral_ne_nil {n : Nat} {text : List Char} (h : Numeral n text) : text ≠ [] := by
  cases h with
  | plain digits => exact digits.nonempty
  | signed digits => exact List.cons_ne_nil _ _

theorem isBlank_of_numeral {n : Nat} {text : List Char} (h : Numeral n text) :
    ∀ c ∈ text, isBlank c = false := by
  cases h with
  | plain digits => exact fun c hc => isBlank_eq_false_of_isDigit (digits.digit c hc)
  | signed digits =>
    intro c hc
    rcases List.mem_cons.mp hc with rfl | hc
    · rfl
    · exact isBlank_eq_false_of_isDigit (digits.digit c hc)

-- What is read is what is written, and nothing else is read.
theorem parseUnsigned_eq_ok_iff {bound n : Nat} {text : List Char} (hbound : 0 < bound) :
    parseUnsigned bound text = .ok n ↔ Numeral n text ∧ n < bound := by
  match text with
  | [] =>
    constructor
    · intro hfault
      cases hfault
    · exact fun ⟨hnumeral, _⟩ => absurd rfl (numeral_ne_nil hnumeral)
  | c :: rest =>
    by_cases hc : c = '+'
    · subst hc
      rw [numeral_plus_iff]
      cases rest with
      | nil =>
        constructor
        · intro hfault
          cases hfault
        · exact fun ⟨hdigits, _⟩ => absurd rfl hdigits.nonempty
      | cons d rest => exact readDigits_zero_eq_ok_iff hbound (List.cons_ne_nil _ _)
    · have hparse : parseUnsigned bound (c :: rest) = readDigits bound 0 (c :: rest) := by
        unfold parseUnsigned
        split <;> simp_all
      rw [hparse, numeral_iff_of_ne hc]
      exact readDigits_zero_eq_ok_iff hbound (List.cons_ne_nil _ _)

theorem padded_iff {n : Nat} {text : List Char} : Padded n text ↔ Numeral n (trim text) := by
  constructor
  · rintro ⟨before, numeral, after, rfl, hnumeral, hbefore, hafter⟩
    rw [trim_padding hbefore hafter (isBlank_of_numeral hnumeral) (numeral_ne_nil hnumeral)]
    exact hnumeral
  · intro hnumeral
    obtain ⟨before, after, htext, hbefore, hafter⟩ := exists_padding text
    exact ⟨before, trim text, after, htext, hnumeral, hbefore, hafter⟩

theorem isDigit_or_plus_of_numeral {n : Nat} {text : List Char} (h : Numeral n text) :
    ∀ c ∈ text, c.isDigit = true ∨ c = '+' := by
  cases h with
  | plain digits => exact fun c hc => .inl (digits.digit c hc)
  | signed digits =>
    intro c hc
    rcases List.mem_cons.mp hc with rfl | hc
    · exact .inr rfl
    · exact .inl (digits.digit c hc)

-- A text writes one number at most.
theorem Numeral.eq {m n : Nat} {text : List Char} (hm : Numeral m text) (hn : Numeral n text) :
    m = n := by
  have hread {k : Nat} (h : Numeral k text) (hlt : k < m + n + 1) :
      parseUnsigned (m + n + 1) text = .ok k :=
    (parseUnsigned_eq_ok_iff (by omega)).mpr ⟨h, hlt⟩
  exact Except.ok.inj ((hread hm (by omega)).symm.trans (hread hn (by omega)))

theorem Padded.eq {m n : Nat} {text : List Char} (hm : Padded m text) (hn : Padded n text) :
    m = n :=
  (padded_iff.mp hm).eq (padded_iff.mp hn)

end SysExporter.Text
