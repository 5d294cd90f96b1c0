import Mathlib.Data.List.TakeWhile
import SysExporter.Proofs.Binary64.Text

namespace SysExporter.Binary64

-- Only zero has no other digit than zeros.
theorem eq_zero_of_decimalDigits {n : Nat} (h : ∀ c ∈ decimalDigits n, c = '0') : n = 0 := by
  induction n using Nat.strongRecOn with
  | ind n ih =>
    rcases Nat.lt_or_ge n 10 with hn | hn
    · rw [decimalDigits, Nat.toDigits_of_lt_base hn] at h
      have hdigit : ∀ k < 10, Nat.digitChar k = '0' → k = 0 := by decide
      exact hdigit n hn (h _ List.mem_cons_self)
    · rw [decimalDigits, Nat.toDigits_of_base_le (by decide) hn] at h
      have hhead := ih (n / 10) (by omega) fun c hc => h c (List.mem_append_left _ hc)
      omega

theorem eq_zero_of_dropZeros {text : List Char} (h : dropZeros text = []) :
    ∀ c ∈ text, c = '0' := by
  have hdrop : text.reverse.dropWhile (· = '0') = [] := List.reverse_eq_nil_iff.mp h
  intro c hc
  exact of_decide_eq_true (List.dropWhile_eq_nil_iff.mp hdrop c (List.mem_reverse.mpr hc))

theorem positional_ne_zero {d : Decimal} (h : d.digits ≠ 0) : positional d ≠ ['0'] := by
  intro heq
  simp only [positional] at heq
  split at heq
  · refine h (eq_zero_of_decimalDigits fun c hc => ?_)
    exact List.mem_singleton.mp (heq ▸ List.mem_append_left _ hc)
  · split at heq
    · rename_i hpart
      have hwhole : d.digits / Nat.pow 10 (-d.exponent).toNat = 0 :=
        eq_zero_of_decimalDigits fun c hc => List.mem_singleton.mp (heq ▸ hc)
      have hrest : d.digits % Nat.pow 10 (-d.exponent).toNat = 0 :=
        eq_zero_of_decimalDigits fun c hc =>
          eq_zero_of_dropZeros hpart c (List.mem_append_right _ hc)
      have hsplit := Nat.div_add_mod d.digits (Nat.pow 10 (-d.exponent).toNat)
      rw [hwhole, hrest] at hsplit
      exact h (by simpa using hsplit.symm)
    · have hlength := congrArg List.length heq
      have hdigits := List.length_pos_iff.mpr
        (Nat.toDigits_ne_nil (n := d.digits / Nat.pow 10 (-d.exponent).toNat) (b := 10))
      simp only [decimalDigits, List.length_append, List.length_cons, List.length_nil] at hlength
      omega

-- No decimal that reads back as a number other than zero is zero.
theorem ne_zero_of_contains {x : Binary64} (hx : x.significand ≠ 0) {digits : Nat} {exponent : Int}
    (h : x.interval.contains digits exponent = true) : digits ≠ 0 := by
  rintro rfl
  have hscale : 0 < Nat.pow 2 x.exponent.toNat := Nat.two_pow_pos _
  have hpower : 0 < Nat.pow 10 (-exponent).toNat := Nat.pow_pos (by decide)
  have hlow : x.interval.low = (4 * x.significand -
      if x.fraction = 0 && 1 < x.biasedExponent then 1 else 2) * Nat.pow 2 x.exponent.toNat := rfl
  have hpositive : 0 < x.interval.low * Nat.pow 10 (-exponent).toNat := by
    rw [hlow]
    refine Nat.mul_pos (Nat.mul_pos ?_ hscale) hpower
    split <;> omega
  simp only [Interval.contains, Nat.zero_mul] at h
  split at h
  · have hle := of_decide_eq_true (Bool.and_eq_true_iff.mp h).1
    exact absurd hle (Nat.not_le.mpr hpositive)
  · simp at h

theorem contains_of_shortestFrom {range : Interval} {power : Int} {more length : Nat} {d : Decimal}
    (h : shortestFrom range power more length = some d) :
    range.contains d.digits d.exponent = true := by
  induction more generalizing length with
  | zero => cases h
  | succ more ih =>
    rw [shortestFrom] at h
    split at h
    · rename_i digits hgrid
      cases h
      exact contains_of_onGrid hgrid
    · exact ih h

theorem digits_shortest_ne_zero {x : Binary64} (hx : x.significand ≠ 0) :
    x.shortest.digits ≠ 0 := by
  simp only [shortest]
  cases h : shortestFrom x.interval (leadingPower x.ratio.1 x.ratio.2) 17 1 with
  | none => exact hx
  | some d => exact ne_zero_of_contains hx (contains_of_shortestFrom h)

theorem isZero_of_significand {x : Binary64} (h : x.significand = 0) : x.isZero = true := by
  simp only [significand] at h
  split at h
  · simp_all [isZero]
  · exact absurd (Nat.eq_zero_of_add_eq_zero_right h) (by decide)

theorem eq_zero_of_isZero {x : Binary64} (hpositive : x.isNegative = false)
    (h : x.isZero = true) : x = zero := by
  simp only [isZero, biasedExponent, fraction, Bool.and_eq_true, beq_iff_eq] at h
  simp only [isNegative, decide_eq_false_iff_not] at hpositive
  have hbits : x.bits = 0 := by
    apply UInt64.toNat_inj.mp
    simp only [Nat.pow_eq, Nat.reducePow] at h hpositive
    have : (0 : UInt64).toNat = 0 := rfl
    omega
  cases x
  exact congrArg mk hbits

-- Only zero is shown as zero.
theorem text_eq_text_zero_iff {x : Binary64} : x.text = zero.text ↔ x = zero := by
  refine ⟨fun h => ?_, fun h => h ▸ rfl⟩
  have hzero : zero.text = ['0'] := by decide
  rw [hzero] at h
  simp only [text] at h
  split at h
  · exact absurd h (by decide)
  · split at h
    · simp at h
    · rename_i hpositive
      split at h
      · exact absurd h (by decide)
      · refine eq_zero_of_isZero (by simpa using hpositive) ?_
        by_contra hnonzero
        have hx : x.significand ≠ 0 := fun hx => hnonzero (isZero_of_significand hx)
        rw [magnitudeText, if_neg hnonzero] at h
        exact positional_ne_zero (digits_shortest_ne_zero hx) h

end SysExporter.Binary64
