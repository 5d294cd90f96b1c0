import Mathlib.Algebra.Ring.Nat
import SysExporter.Binary64.Rounding
import SysExporter.Binary64.Text

namespace SysExporter.Binary64

-- The fields of a positive number in normal form.
structure Normal (x : Binary64) (biased significand : Nat) : Prop where
  bits_eq : x.bits.toNat + Nat.pow 2 52 = biased * Nat.pow 2 52 + significand
  hidden : Nat.pow 2 52 ≤ significand
  significand_lt : significand < Nat.pow 2 53
  biased_pos : 0 < biased
  biased_lt : biased < 2047

namespace Normal

variable {x : Binary64} {biased m : Nat}

theorem biasedExponent_eq (h : Normal x biased m) : x.biasedExponent = biased := by
  obtain ⟨hbits, hlow, hhigh, hpos, hlt⟩ := h
  simp only [Nat.pow_eq, Nat.reducePow] at hbits hlow hhigh
  simp only [biasedExponent, Nat.pow_eq, Nat.reducePow]
  omega

theorem fraction_eq (h : Normal x biased m) : x.fraction + Nat.pow 2 52 = m := by
  obtain ⟨hbits, hlow, hhigh, hpos, hlt⟩ := h
  simp only [Nat.pow_eq, Nat.reducePow] at hbits hlow hhigh
  simp only [fraction, Nat.pow_eq, Nat.reducePow]
  omega

theorem significand_eq (h : Normal x biased m) : x.significand = m := by
  have hpos := h.biased_pos
  have hf := h.fraction_eq
  simp only [significand, h.biasedExponent_eq]
  rw [if_neg (by omega), Nat.add_comm, hf]

theorem exponent_eq (h : Normal x biased m) : x.exponent = (biased : Int) - 1075 := by
  have hpos := h.biased_pos
  simp only [exponent, h.biasedExponent_eq]
  rw [if_neg (by omega)]

theorem isNegative_eq (h : Normal x biased m) : x.isNegative = false := by
  obtain ⟨hbits, -, hhigh, -, hlt⟩ := h
  simp only [Nat.pow_eq, Nat.reducePow] at hbits hhigh
  simp only [isNegative, Nat.pow_eq, Nat.reducePow, decide_eq_false_iff_not]
  omega

theorem text_eq (h : Normal x biased m) : x.text = positional x.shortest := by
  have hb := h.biasedExponent_eq
  have hpos := h.biased_pos
  have hlt := h.biased_lt
  have hfinite : (x.biasedExponent == 2047) = false := by
    rw [hb]
    exact beq_eq_false_iff_ne.mpr (by omega)
  have hnonzero : (x.biasedExponent == 0) = false := by
    rw [hb]
    exact beq_eq_false_iff_ne.mpr (by omega)
  simp [text, magnitudeText, isNaN, isInfinite, isZero, hfinite, hnonzero, h.isNegative_eq]

end Normal

theorem contains_of_onGrid {range : Interval} {exponent : Int} {digits : Nat}
    (h : onGrid range exponent = some digits) : range.contains digits exponent = true := by
  obtain ⟨nearer, further, h⟩ : ∃ nearer further,
      (if range.contains nearer exponent then some nearer
        else if range.contains further exponent then some further else none) = some digits :=
    ⟨_, _, h⟩
  split at h
  · cases h
    assumption
  · split at h
    · cases h
      assumption
    · cases h

-- The exponent of the last place: a whole number of less than 54 binary digits
-- is shifted up until it has 53 of them.
theorem ratioExponent_one {n : Nat} (hn : n ≠ 0) (hlarge : Nat.log2 n < 1000) :
    ratioExponent n 1 = (Nat.log2 n : Int) - 52 := by
  have hlow := Nat.log2_self_le hn
  have hone : Nat.log2 1 = 0 := by decide
  have hexact : Nat.pow 2 53 * (1 * Nat.pow 2 ((Nat.log2 n : Int) - 53).toNat) ≤
      n * Nat.pow 2 (-((Nat.log2 n : Int) - 53)).toNat := by
    simp only [Nat.pow_eq, Nat.one_mul]
    rcases Nat.le_total 53 (Nat.log2 n) with h | h
    · have hup : ((Nat.log2 n : Int) - 53).toNat = Nat.log2 n - 53 := by omega
      have hdown : (-((Nat.log2 n : Int) - 53)).toNat = 0 := by omega
      rw [hup, hdown, ← Nat.pow_add, Nat.add_sub_cancel' h]
      simpa using hlow
    · have hup : ((Nat.log2 n : Int) - 53).toNat = 0 := by omega
      have hdown : (-((Nat.log2 n : Int) - 53)).toNat = 53 - Nat.log2 n := by omega
      rw [hup, hdown]
      calc 2 ^ 53 * 2 ^ 0 = 2 ^ Nat.log2 n * 2 ^ (53 - Nat.log2 n) := by
            rw [← Nat.pow_add 2 (Nat.log2 n), Nat.add_sub_cancel' h, Nat.pow_zero, Nat.mul_one]
        _ ≤ n * 2 ^ (53 - Nat.log2 n) := Nat.mul_le_mul_right _ hlow
  simp only [ratioExponent, scaleDown, hone, Int.ofNat_zero, Int.sub_zero, if_pos hexact]
  omega

theorem divNearest_one (n : Nat) : divNearest n 1 = n := by
  simp [divNearest, Nat.mod_one]

theorem toNat_toUInt64 {n : Nat} (h : n < 2 ^ 64) : n.toUInt64.toNat = n :=
  UInt64.toNat_ofNat_of_lt' h

-- How far a whole number below 2 ^ 53 is shifted up.
def shift (n : Nat) : Nat :=
  2 ^ (52 - Nat.log2 n)

theorem pow_eq_shift (n : Nat) : 2 ^ (52 - Nat.log2 n) = shift n := rfl

theorem shift_pos (n : Nat) : 0 < shift n :=
  Nat.two_pow_pos _

section

variable {n : Nat} (hn : n ≠ 0) (hlt : n < 2 ^ 53)
include hn hlt

theorem log2_le : Nat.log2 n ≤ 52 :=
  Nat.lt_succ_iff.mp ((Nat.log2_lt hn).mpr hlt)

theorem mul_shift_bounds : 2 ^ 52 ≤ n * shift n ∧ n * shift n < 2 ^ 53 := by
  have hpow : 2 ^ Nat.log2 n * shift n = 2 ^ 52 := by
    rw [shift, ← Nat.pow_add, Nat.add_sub_cancel' (log2_le hn hlt)]
  refine ⟨hpow ▸ Nat.mul_le_mul_right _ (Nat.log2_self_le hn), ?_⟩
  calc n * shift n < 2 ^ (Nat.log2 n + 1) * shift n :=
        Nat.mul_lt_mul_of_pos_right Nat.lt_log2_self (shift_pos n)
    _ = 2 ^ 53 := by rw [Nat.pow_succ, Nat.mul_right_comm, hpow, ← Nat.pow_succ]

-- The bits of a whole number below 2 ^ 53: nothing of it is lost.
theorem normal_ofNat : Normal (ofNat n) (Nat.log2 n + 1023) (n * shift n) := by
  have hlog := log2_le hn hlt
  obtain ⟨hlow, hhigh⟩ := mul_shift_bounds hn hlt
  have hup : ((Nat.log2 n : Int) - 52).toNat = 0 := by omega
  have hdown : (-((Nat.log2 n : Int) - 52)).toNat = 52 - Nat.log2 n := by omega
  have hfield : ((Nat.log2 n : Int) - 52 + 1074).toNat = Nat.log2 n + 1022 := by omega
  have hbits : (ofNat n).bits.toNat = (Nat.log2 n + 1022) * 2 ^ 52 + n * shift n := by
    simp only [ofNat, ofRatio, if_neg hn, ratioExponent_one hn (by omega), scaleDown, hup, hdown,
      hfield, Nat.pow_eq, Nat.pow_zero, Nat.one_mul, divNearest_one, pow_eq_shift]
    rw [if_neg (by omega)]
    exact toNat_toUInt64 (by omega)
  constructor
  case bits_eq => rw [hbits]; simp only [Nat.pow_eq]; omega
  case hidden => exact hlow
  case significand_lt => exact hhigh
  case biased_pos => omega
  case biased_lt => omega

theorem exponent_ofNat : (ofNat n).exponent = (Nat.log2 n : Int) - 52 := by
  rw [(normal_ofNat hn hlt).exponent_eq]
  omega

-- As a ratio a whole number has the shift for its denominator.
theorem ratio_ofNat : (ofNat n).ratio = (n * shift n, shift n) := by
  have hlog := log2_le hn hlt
  have hup : ((Nat.log2 n : Int) - 52).toNat = 0 := by omega
  have hdown : (-((Nat.log2 n : Int) - 52)).toNat = 52 - Nat.log2 n := by omega
  simp only [ratio, (normal_ofNat hn hlt).significand_eq, exponent_ofNat hn hlt, hup, hdown,
    Nat.pow_eq, Nat.pow_zero, Nat.mul_one, pow_eq_shift]

-- Its interval reaches half a unit of the last place to each side at most.
theorem interval_ofNat :
    (ofNat n).interval.middle = 4 * (n * shift n) ∧ (ofNat n).interval.unit = 4 * shift n ∧
    4 * (n * shift n) ≤ (ofNat n).interval.low + 2 ∧
    (ofNat n).interval.low < 4 * (n * shift n) ∧
    (ofNat n).interval.high = 4 * (n * shift n) + 2 := by
  have hlog := log2_le hn hlt
  have hlow := (mul_shift_bounds hn hlt).1
  have hup : ((Nat.log2 n : Int) - 52).toNat = 0 := by omega
  have hdown : (-((Nat.log2 n : Int) - 52)).toNat = 52 - Nat.log2 n := by omega
  simp only [interval, (normal_ofNat hn hlt).significand_eq, exponent_ofNat hn hlt, hup, hdown,
    Nat.pow_eq, Nat.pow_zero, Nat.mul_one, pow_eq_shift, true_and, and_true]
  constructor <;> split <;> omega

-- A decimal without places in the interval is the number itself.
theorem eq_of_contains {digits places : Nat}
    (h : (ofNat n).interval.contains digits places = true) : digits * 10 ^ places = n := by
  obtain ⟨-, hunit, hlow, -, hhigh⟩ := interval_ofNat hn hlt
  have hneg : (-(places : Int)).toNat = 0 := by omega
  simp only [Interval.contains, hneg, Int.toNat_natCast, Nat.pow_eq, Nat.pow_zero, Nat.mul_one,
    hunit, hhigh] at h
  generalize digits * 10 ^ places = value at h
  have hbounds : 4 * (n * shift n) ≤ value * (4 * shift n) + 2 ∧
      value * (4 * shift n) ≤ 4 * (n * shift n) + 2 := by
    split at h <;> simp only [Bool.and_eq_true, decide_eq_true_eq] at h <;> omega
  have hpos := shift_pos n
  -- one unit more or less would be four quarters of the shift away
  rcases Nat.lt_trichotomy value n with hless | heq | hmore
  · have hstep := Nat.mul_le_mul_right (4 * shift n) hless
    rw [Nat.succ_mul, Nat.mul_left_comm n] at hstep
    omega
  · exact heq
  · have hstep := Nat.mul_le_mul_right (4 * shift n) hmore
    rw [Nat.succ_mul, Nat.mul_left_comm n] at hstep
    omega

theorem contains_self : (ofNat n).interval.contains n 0 = true := by
  obtain ⟨-, hunit, -, hlow, hhigh⟩ := interval_ofNat hn hlt
  have hvalue : n * (4 * shift n) = 4 * (n * shift n) := Nat.mul_left_comm n 4 _
  simp only [Interval.contains, Int.toNat_zero, Int.neg_zero, Nat.pow_eq, Nat.pow_zero,
    Nat.mul_one, hunit, hhigh, hvalue]
  split <;> simp only [Bool.and_eq_true, decide_eq_true_eq] <;> omega

-- The power of ten that the search for the shortest decimal begins with is not
-- too small, and not so large that the search would end before it has all digits.
theorem leadingPower_bounds :
    1 ≤ leadingPower (n * shift n) (shift n) ∧ leadingPower (n * shift n) (shift n) ≤ 17 := by
  have hlog := log2_le hn hlt
  obtain ⟨hlow, hhigh⟩ := mul_shift_bounds hn hlt
  have hpos := shift_pos n
  have hnumerator : Nat.log2 (n * shift n) = 52 :=
    (Nat.log2_eq_iff (by omega)).mpr ⟨hlow, hhigh⟩
  have hdenominator : Nat.log2 (shift n) = 52 - Nat.log2 n := Nat.log2_two_pow
  have hguess : ((Nat.log2 (n * shift n) : Int) - Nat.log2 (shift n) - 1) =
      (Nat.log2 n : Int) - 1 := by
    rw [hnumerator, hdenominator]
    omega
  have hsmall (power : Int)
      (h : n * shift n * 10 ^ (-power).toNat < shift n * 10 ^ power.toNat) : 0 < power := by
    rcases Int.lt_or_le 0 power with hpower | hpower
    · exact hpower
    · have hup : power.toNat = 0 := by omega
      have hmore : shift n ≤ n * shift n * 10 ^ (-power).toNat :=
        calc shift n ≤ n * shift n := Nat.le_mul_of_pos_left _ (Nat.pos_of_ne_zero hn)
          _ ≤ n * shift n * 10 ^ (-power).toNat :=
            Nat.le_mul_of_pos_right _ (Nat.pow_pos (by omega))
      rw [hup] at h
      omega
  have hlarge (power : Int) (h : 16 ≤ power) :
      n * shift n * 10 ^ (-power).toNat < shift n * 10 ^ power.toNat := by
    have hdown : (-power).toNat = 0 := by omega
    have hten : 10 ^ 16 ≤ 10 ^ power.toNat := Nat.pow_le_pow_right (by omega) (by omega)
    rw [hdown, Nat.pow_zero, Nat.mul_one, Nat.mul_comm]
    exact Nat.mul_lt_mul_of_pos_left (by omega) hpos
  simp only [leadingPower, hguess, decide_eq_true_eq, Nat.pow_eq]
  generalize hg : ((Nat.log2 n : Int) - 1) * 30103 / 100000 = guess
  have hfirst := hsmall guess
  have hsecond := hsmall (guess + 1)
  have hthird := hsmall (guess + 2)
  have hlast := hlarge (guess + 2)
  split
  · omega
  · split
    · omega
    · split <;> omega

-- On the grid of the whole numbers it is its own neighbour.
theorem onGrid_zero : onGrid (ofNat n).interval 0 = some n := by
  obtain ⟨hmiddle, hunit, -⟩ := interval_ofNat hn hlt
  have hpos := shift_pos n
  have hvalue : 4 * (n * shift n) = n * (4 * shift n) := Nat.mul_left_comm 4 n _
  have hbelow : 4 * (n * shift n) / (4 * shift n) = n := by
    rw [hvalue]
    exact Nat.mul_div_cancel n (by omega)
  have hrest : 4 * (n * shift n) % (4 * shift n) = 0 := by
    rw [hvalue]
    exact Nat.mul_mod_left n _
  have hnearer : 2 * 0 < 4 * shift n := by omega
  simp only [onGrid, hmiddle, hunit, Int.toNat_zero, Int.neg_zero, Nat.pow_eq, Nat.pow_zero,
    Nat.mul_one, hbelow, hrest, if_pos hnearer, contains_self hn hlt, if_true]

-- The search ends at the place of the units at the latest, and whatever it ends
-- with is the number itself.
theorem shortestFrom_ofNat {power : Nat} (more length : Nat) (hlength : length ≤ power)
    (hmore : power < length + more) :
    ∃ digits places : Nat, shortestFrom (ofNat n).interval power more length =
      some ⟨digits, places⟩ ∧ digits * 10 ^ places = n := by
  induction more generalizing length with
  | zero => omega
  | succ more ih =>
    have hplaces : (power : Int) - length = ((power - length : Nat) : Int) := by omega
    rw [shortestFrom, hplaces]
    cases hgrid : onGrid (ofNat n).interval ((power - length : Nat) : Int) with
    | some digits =>
      exact ⟨digits, power - length, rfl, eq_of_contains hn hlt (contains_of_onGrid hgrid)⟩
    | none =>
      have hunits : power - length ≠ 0 := by
        intro hzero
        rw [hzero] at hgrid
        exact absurd ((onGrid_zero hn hlt).symm.trans hgrid) (by simp)
      exact ih (length + 1) (by omega) (by omega)

theorem shortest_ofNat :
    ∃ digits places : Nat, (ofNat n).shortest = ⟨digits, places⟩ ∧ digits * 10 ^ places = n := by
  obtain ⟨hfirst, hlast⟩ := leadingPower_bounds hn hlt
  obtain ⟨power, hpower⟩ := Int.eq_ofNat_of_zero_le (Int.le_trans (by decide) hfirst)
  have hunits : 1 ≤ power := by omega
  obtain ⟨digits, places, hfound, hvalue⟩ := shortestFrom_ofNat hn hlt 17 1 hunits (by omega)
  refine ⟨digits, places, ?_, hvalue⟩
  simp only [shortest, ratio_ofNat hn hlt, hpower, hfound, Option.getD_some]

end

theorem decimalDigits_mul_pow {m : Nat} (hm : 0 < m) (places : Nat) :
    decimalDigits (m * 10 ^ places) = decimalDigits m ++ List.replicate places '0' := by
  induction places with
  | zero => simp
  | succ places ih =>
    have hstep : m * 10 ^ (places + 1) = 10 * (m * 10 ^ places) + 0 := by
      rw [Nat.pow_succ, Nat.add_zero, ← Nat.mul_assoc, Nat.mul_comm]
    have hdigits := Nat.toDigits_append_toDigits (b := 10) (n := m * 10 ^ places) (d := 0)
      (by decide) (Nat.mul_pos hm (Nat.pow_pos (by decide))) (by decide)
    calc decimalDigits (m * 10 ^ (places + 1))
        = decimalDigits (m * 10 ^ places) ++ ['0'] := by rw [hstep]; exact hdigits.symm
      _ = decimalDigits m ++ List.replicate (places + 1) '0' := by
        rw [ih, List.append_assoc, List.replicate_succ']

-- Up to 2 ^ 53 a count is shown with exactly its decimal digits.
theorem text_ofNat {n : Nat} (h : n ≤ 2 ^ 53) : (ofNat n).text = Nat.toDigits 10 n := by
  rcases Nat.eq_zero_or_pos n with hzero | hpos
  · subst hzero
    decide
  rcases Nat.lt_or_eq_of_le h with hlt | heq
  · have hn : n ≠ 0 := by omega
    obtain ⟨digits, places, hshortest, hvalue⟩ := shortest_ofNat hn hlt
    have hdigits : 0 < digits :=
      Nat.pos_of_ne_zero fun hzero => hn (by rw [← hvalue, hzero, Nat.zero_mul])
    rw [(normal_ofNat hn hlt).text_eq, hshortest, positional, if_pos (Int.natCast_nonneg places),
      Int.toNat_natCast, ← decimalDigits_mul_pow hdigits, hvalue, decimalDigits]
  · subst heq
    decide

theorem isDigit_of_mem_decimalDigits {n : Nat} {c : Char} (h : c ∈ decimalDigits n) :
    c.isDigit = true :=
  Nat.isDigit_of_mem_toDigits (by decide) (by decide) h

theorem mem_of_mem_dropZeros {text : List Char} {c : Char} (h : c ∈ dropZeros text) :
    c ∈ text :=
  List.mem_reverse.mp ((List.dropWhile_sublist _).mem (List.mem_reverse.mp h))

theorem isDigit_of_mem_positional {d : Decimal} {c : Char} (h : c ∈ positional d) :
    c.isDigit = true ∨ c = '.' := by
  have hzero {count : Nat} (h : c ∈ List.replicate count '0') : c.isDigit = true := by
    rw [(List.mem_replicate.mp h).2]
    rfl
  simp only [positional] at h
  split at h
  · rcases List.mem_append.mp h with h | h
    · exact .inl (isDigit_of_mem_decimalDigits h)
    · exact .inl (hzero h)
  · split at h
    · exact .inl (isDigit_of_mem_decimalDigits h)
    · rcases List.mem_append.mp h with h | h
      · exact .inl (isDigit_of_mem_decimalDigits h)
      rcases List.mem_cons.mp h with h | h
      · exact .inr h
      rcases List.mem_append.mp (mem_of_mem_dropZeros h) with h | h
      · exact .inl (hzero h)
      · exact .inl (isDigit_of_mem_decimalDigits h)

-- Nothing but digits, a point, a sign and the letters of the two words occurs in
-- the text of a number.
theorem not_mem_text {c : Char} (hdigit : c.isDigit = false)
    (hother : c ∉ ['.', '-'] ++ "NaN".toList ++ "inf".toList) (x : Binary64) : c ∉ x.text := by
  have hmagnitude : c ∉ x.magnitudeText := by
    intro h
    simp only [magnitudeText] at h
    split at h
    · rw [List.mem_singleton.mp h] at hdigit
      exact absurd hdigit (by decide)
    · rcases isDigit_of_mem_positional h with h | rfl
      · simp [hdigit] at h
      · simp at hother
  simp only [List.mem_append, List.mem_cons, List.not_mem_nil, or_false, not_or] at hother
  obtain ⟨⟨⟨-, hsign⟩, hnan⟩, hinf⟩ := hother
  simp only [text]
  split
  · exact hnan
  · split <;> split <;> simp_all

-- So it never leaves its line.
theorem newline_not_mem_text (x : Binary64) : '\n' ∉ x.text :=
  not_mem_text (by decide) (by decide) x

theorem blank_not_mem_text (x : Binary64) : ' ' ∉ x.text :=
  not_mem_text (by decide) (by decide) x

end SysExporter.Binary64
