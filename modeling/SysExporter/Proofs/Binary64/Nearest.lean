import Mathlib.Algebra.Order.Field.Power
import Mathlib.Algebra.Order.Ring.Rat
import Mathlib.Tactic.Linarith
import Mathlib.Tactic.Positivity
import Mathlib.Tactic.Ring
import SysExporter.Proofs.Binary64.Text

namespace SysExporter.Binary64

-- The number that a double denotes.
def toRat (x : Binary64) : ℚ :=
  (if x.isNegative then -1 else 1) * (x.significand * 2 ^ x.exponent)

def IsFinite (x : Binary64) : Prop :=
  x.biasedExponent ≠ 2047

instance (x : Binary64) : Decidable x.IsFinite :=
  inferInstanceAs (Decidable (_ ≠ _))

-- No finite double is nearer to the whole number. If another one is as near, the
-- last digit of the significand is even.
structure Nearest (n : Nat) (x : Binary64) : Prop where
  finite : x.IsFinite
  closest : ∀ y : Binary64, y.IsFinite → |x.toRat - n| ≤ |y.toRat - n|
  even : ∀ y : Binary64, y.IsFinite → y.toRat ≠ x.toRat → |y.toRat - n| = |x.toRat - n| →
    x.significand % 2 = 0

theorem divNearest_bounds (n : Nat) {d : Nat} (hd : 0 < d) :
    2 * (divNearest n d * d) ≤ 2 * n + d ∧ 2 * n ≤ 2 * (divNearest n d * d) + d := by
  have hsplit := Nat.div_add_mod n d
  have hrest := Nat.mod_lt n hd
  rw [Nat.mul_comm] at hsplit
  have hup : (n / d + 1) * d = n / d * d + d := Nat.succ_mul _ _
  unfold divNearest
  dsimp only
  split
  · omega
  · split
    · omega
    · rcases Nat.mod_two_eq_zero_or_one (n / d) with heven | hodd
      · rw [heven, Nat.add_zero]
        omega
      · rw [hodd]
        omega

-- Half way between two multiples it is the even one.
theorem divNearest_even {n d k : Nat} (hd : 0 < d) (hne : k ≠ divNearest n d)
    (htie : 2 * n = (divNearest n d + k) * d) : divNearest n d % 2 = 0 := by
  have hsplit := Nat.div_add_mod n d
  have hrest := Nat.mod_lt n hd
  have hdvd : d ∣ 2 * (n % d) := by
    have hwhole : d ∣ 2 * (d * (n / d)) := Dvd.dvd.mul_left (Nat.dvd_mul_right d _) 2
    apply (Nat.dvd_add_right hwhole).mp
    rw [← Nat.mul_add, hsplit, htie]
    exact Nat.dvd_mul_left d _
  obtain ⟨c, hc⟩ := hdvd
  have hsmall : c < 2 := by
    by_contra hlarge
    have := Nat.mul_le_mul_left d (Nat.not_lt.mp hlarge)
    omega
  rcases (show c = 0 ∨ c = 1 by omega) with rfl | rfl
  · have hexact : divNearest n d = n / d := by
      unfold divNearest
      dsimp only
      rw [if_pos (by omega)]
    exfalso
    apply hne
    apply Nat.eq_of_mul_eq_mul_right hd
    rw [hexact] at htie ⊢
    rw [Nat.add_mul, Nat.mul_comm (n / d)] at htie
    rw [Nat.mul_comm (n / d)]
    omega
  · unfold divNearest
    dsimp only
    rw [if_neg (by omega), if_neg (by omega)]
    omega

theorem abs_divNearest_sub_le (n : Nat) {d : Nat} (hd : 0 < d) :
    |((divNearest n d * d : Nat) : ℚ) - n| ≤ d / 2 := by
  obtain ⟨hup, hdown⟩ := divNearest_bounds n hd
  have hup' : 2 * ((divNearest n d * d : Nat) : ℚ) ≤ 2 * n + d := by exact_mod_cast hup
  have hdown' : 2 * (n : ℚ) ≤ 2 * (divNearest n d * d : Nat) + d := by exact_mod_cast hdown
  apply abs_le.mpr
  constructor <;> linarith

theorem divNearest_closest (n k : Nat) {d : Nat} (hd : 0 < d) :
    |((divNearest n d * d : Nat) : ℚ) - n| ≤ |((k * d : Nat) : ℚ) - n| := by
  by_cases hk : k = divNearest n d
  · rw [hk]
  have hhalf := abs_divNearest_sub_le n hd
  generalize divNearest n d = q at hk hhalf ⊢
  have hapart : (1 : ℚ) ≤ |(k : ℚ) - q| := by
    have hne : (k : Int) - q ≠ 0 := by omega
    exact_mod_cast Int.one_le_abs hne
  have hwhole : (d : ℚ) ≤ |((k * d : Nat) : ℚ) - (q * d : Nat)| := by
    push_cast
    rw [← sub_mul, abs_mul, Nat.abs_cast]
    exact le_mul_of_one_le_left (Nat.cast_nonneg d) hapart
  have htriangle := abs_sub_le ((k * d : Nat) : ℚ) n (q * d : Nat)
  rw [abs_sub_comm (n : ℚ)] at htriangle
  linarith

-- The place of the last digit of a whole number that has more than 53 of them.
def place (n : Nat) : Nat :=
  2 ^ (Nat.log2 n - 52)

theorem pow_eq_place (n : Nat) : 2 ^ (Nat.log2 n - 52) = place n := rfl

theorem place_pos (n : Nat) : 0 < place n :=
  Nat.two_pow_pos _

section

variable {x y : Binary64} {biased m n : Nat}

theorem Normal.toRat_eq (h : Normal x biased m) (places : Nat) (hplaces : biased = 1075 + places) :
    x.toRat = (m * 2 ^ places : Nat) := by
  have hexponent : x.exponent = (places : Int) := by
    rw [h.exponent_eq]
    omega
  rw [toRat, h.isNegative_eq, h.significand_eq, hexponent, zpow_natCast]
  push_cast
  simp

theorem Normal.isFinite (h : Normal x biased m) : x.IsFinite := by
  have hlt := h.biased_lt
  rw [IsFinite, h.biasedExponent_eq]
  omega

end

section

variable {n : Nat} (hlow : 2 ^ 52 ≤ n) (hhigh : n < 2 ^ 64)
include hlow hhigh

theorem log2_bounds : 52 ≤ Nat.log2 n ∧ Nat.log2 n < 64 := by
  have hn : n ≠ 0 := by omega
  exact ⟨(Nat.le_log2 hn).mpr hlow, (Nat.log2_lt hn).mpr hhigh⟩

theorem mul_place_bounds : 2 ^ 52 * place n ≤ n ∧ n < 2 ^ 53 * place n := by
  have hn : n ≠ 0 := by omega
  have hlog := (log2_bounds hlow hhigh).1
  constructor
  · rw [place, ← Nat.pow_add, Nat.add_sub_cancel' hlog]
    exact Nat.log2_self_le hn
  · have hpow : 53 + (Nat.log2 n - 52) = Nat.log2 n + 1 := by omega
    rw [place, ← Nat.pow_add, hpow]
    exact Nat.lt_log2_self

theorem significand_bounds :
    2 ^ 52 ≤ divNearest n (place n) ∧ divNearest n (place n) ≤ 2 ^ 53 := by
  obtain ⟨hfloor, hceil⟩ := mul_place_bounds hlow hhigh
  obtain ⟨hup, hdown⟩ := divNearest_bounds n (place_pos n)
  have hpos := place_pos n
  constructor
  · by_contra hlt
    have := Nat.mul_le_mul_right (place n) (Nat.not_le.mp hlt)
    rw [Nat.succ_mul] at this
    omega
  · by_contra hlt
    have := Nat.mul_le_mul_right (place n) (Nat.not_le.mp hlt)
    rw [Nat.succ_mul] at this
    omega

-- Rounding up may make the significand one digit longer. The carry goes into the
-- exponent.
theorem bits_ofNat :
    (ofNat n).bits.toNat = (Nat.log2 n + 1022) * 2 ^ 52 + divNearest n (place n) := by
  have hn : n ≠ 0 := by omega
  obtain ⟨hfirst, hlast⟩ := log2_bounds hlow hhigh
  obtain ⟨-, hceil⟩ := significand_bounds hlow hhigh
  have hup : ((Nat.log2 n : Int) - 52).toNat = Nat.log2 n - 52 := by omega
  have hdown : (-((Nat.log2 n : Int) - 52)).toNat = 0 := by omega
  have hfield : ((Nat.log2 n : Int) - 52 + 1074).toNat = Nat.log2 n + 1022 := by omega
  simp only [ofNat, ofRatio, if_neg hn, ratioExponent_one hn (by omega), scaleDown, hup, hdown,
    hfield, Nat.pow_eq, Nat.pow_zero, Nat.mul_one, Nat.one_mul, pow_eq_place]
  rw [if_neg (by omega)]
  exact toNat_toUInt64 (by omega)

theorem normal_of_fits (h : divNearest n (place n) < 2 ^ 53) :
    Normal (ofNat n) (Nat.log2 n + 1023) (divNearest n (place n)) := by
  obtain ⟨hfirst, hlast⟩ := log2_bounds hlow hhigh
  obtain ⟨hfloor, -⟩ := significand_bounds hlow hhigh
  constructor
  case bits_eq => rw [bits_ofNat hlow hhigh]; simp only [Nat.pow_eq]; omega
  case hidden => exact hfloor
  case significand_lt => exact h
  case biased_pos => omega
  case biased_lt => omega

theorem normal_of_carry (h : divNearest n (place n) = 2 ^ 53) :
    Normal (ofNat n) (Nat.log2 n + 1024) (2 ^ 52) := by
  obtain ⟨hfirst, hlast⟩ := log2_bounds hlow hhigh
  constructor
  case bits_eq => rw [bits_ofNat hlow hhigh, h]; simp only [Nat.pow_eq]; omega
  case hidden => exact Nat.le_refl _
  case significand_lt => decide
  case biased_pos => omega
  case biased_lt => omega

theorem finite_ofNat_large : (ofNat n).IsFinite := by
  rcases Nat.lt_or_eq_of_le (significand_bounds hlow hhigh).2 with h | h
  · exact (normal_of_fits hlow hhigh h).isFinite
  · exact (normal_of_carry hlow hhigh h).isFinite

theorem toRat_ofNat_large : (ofNat n).toRat = (divNearest n (place n) * place n : Nat) := by
  obtain ⟨hfirst, hlast⟩ := log2_bounds hlow hhigh
  rcases Nat.lt_or_eq_of_le (significand_bounds hlow hhigh).2 with h | h
  · exact (normal_of_fits hlow hhigh h).toRat_eq (Nat.log2 n - 52) (by omega)
  · rw [(normal_of_carry hlow hhigh h).toRat_eq (Nat.log2 n - 52 + 1) (by omega), h, place]
    push_cast
    ring

theorem even_ofNat_large (heven : divNearest n (place n) % 2 = 0) :
    (ofNat n).significand % 2 = 0 := by
  rcases Nat.lt_or_eq_of_le (significand_bounds hlow hhigh).2 with h | h
  · rw [(normal_of_fits hlow hhigh h).significand_eq]
    exact heven
  · rw [(normal_of_carry hlow hhigh h).significand_eq]
    decide

end

theorem toRat_ofNat_small {n : Nat} (hn : n ≠ 0) (hlt : n < 2 ^ 53) : (ofNat n).toRat = n := by
  have hlog := log2_le hn hlt
  have hexponent : (ofNat n).exponent = -((52 - Nat.log2 n : Nat) : Int) := by
    rw [exponent_ofNat hn hlt]
    omega
  have hnormal := normal_ofNat hn hlt
  rw [toRat, hnormal.isNegative_eq, hnormal.significand_eq, hexponent, shift, zpow_neg,
    zpow_natCast]
  push_cast
  rw [one_mul, mul_assoc, mul_inv_cancel₀ (by positivity), mul_one]

theorem significand_lt (y : Binary64) : y.significand < 2 ^ 53 := by
  have hfraction : y.fraction < 2 ^ 52 := Nat.mod_lt _ (Nat.two_pow_pos 52)
  unfold significand
  simp only [Nat.pow_eq]
  split <;> omega

-- From a power of two on all doubles are multiples of its last place.
theorem exists_multiple {y : Binary64} {places : Nat} (h : 2 ^ (52 + places) ≤ y.toRat) :
    ∃ k : Nat, y.toRat = (k * 2 ^ places : Nat) := by
  have hpositive : (0 : ℚ) < 2 ^ (52 + places) := by positivity
  have hmagnitude : (0 : ℚ) ≤ y.significand * 2 ^ y.exponent := by positivity
  have hsign : y.isNegative = false := by
    by_contra hnegative
    rw [toRat, if_pos (by simpa using hnegative)] at h
    linarith
  have hvalue : y.toRat = y.significand * 2 ^ y.exponent := by
    rw [toRat, hsign]
    simp
  have hexponent : (places : Int) ≤ y.exponent := by
    have hsignificand : (y.significand : ℚ) < 2 ^ 53 := by exact_mod_cast significand_lt y
    have hlt : (2 : ℚ) ^ (52 + places : Int) < 2 ^ (53 + y.exponent) := by
      calc (2 : ℚ) ^ (52 + places : Int) = 2 ^ (52 + places) := by norm_cast
        _ ≤ y.significand * 2 ^ y.exponent := hvalue ▸ h
        _ < 2 ^ 53 * 2 ^ y.exponent := by gcongr
        _ = 2 ^ (53 + y.exponent) := by rw [zpow_add₀ two_ne_zero]; norm_cast
    have := (zpow_lt_zpow_iff_right₀ one_lt_two).mp hlt
    omega
  obtain ⟨more, hmore⟩ := Int.le.dest hexponent
  refine ⟨y.significand * 2 ^ more, ?_⟩
  rw [hvalue, ← hmore, zpow_add₀ two_ne_zero, zpow_natCast, zpow_natCast]
  push_cast
  ring

theorem toRat_zero : zero.toRat = 0 := by
  have hsignificand : zero.significand = 0 := rfl
  rw [toRat, hsignificand]
  simp

-- Up to 2 ^ 53 nothing is lost.
theorem toRat_ofNat_of_le {n : Nat} (h : n ≤ 2 ^ 53) : (ofNat n).toRat = n := by
  rcases Nat.eq_zero_or_pos n with rfl | hpos
  · exact_mod_cast toRat_zero
  rcases Nat.lt_or_eq_of_le h with hlt | rfl
  · exact toRat_ofNat_small (by omega) hlt
  · rw [toRat_ofNat_large (by decide) (by decide)]
    norm_cast

theorem finite_ofNat {n : Nat} (h : n < 2 ^ 64) : (ofNat n).IsFinite := by
  rcases Nat.eq_zero_or_pos n with rfl | hpos
  · decide
  rcases Nat.lt_or_ge n (2 ^ 52) with hlt | hge
  · exact (normal_ofNat (by omega) (by omega)).isFinite
  · exact finite_ofNat_large hge h

theorem exists_toRat_ofNat {n : Nat} (h : n < 2 ^ 64) : ∃ m : Nat, (ofNat n).toRat = m := by
  rcases Nat.le_total n (2 ^ 53) with hsmall | hlarge
  · exact ⟨n, toRat_ofNat_of_le hsmall⟩
  · exact ⟨_, toRat_ofNat_large (by omega) h⟩

-- What is lost is at most half of the last place.
theorem abs_toRat_sub_le {n : Nat} (h : n < 2 ^ 64) : |(ofNat n).toRat - n| ≤ n / 2 ^ 53 := by
  rcases Nat.le_total n (2 ^ 53) with hsmall | hlarge
  · rw [toRat_ofNat_of_le hsmall, sub_self, abs_zero]
    positivity
  · have hlow : 2 ^ 52 ≤ n := by omega
    have hhalf := abs_divNearest_sub_le n (place_pos n)
    have hfloor : 2 ^ 52 * (place n : ℚ) ≤ n := by
      exact_mod_cast (mul_place_bounds hlow h).1
    rw [toRat_ofNat_large hlow h]
    apply hhalf.trans
    linarith

-- A double is a multiple of the last place of the number, or below its leading
-- power of two and so too far.
theorem multiple_or_further {n : Nat} (hlow : 2 ^ 52 ≤ n) (hhigh : n < 2 ^ 64) (y : Binary64) :
    (∃ k : Nat, y.toRat = (k * place n : Nat)) ∨ |(ofNat n).toRat - n| < |y.toRat - n| := by
  rcases le_or_gt (((2 ^ 52 * place n : Nat) : ℚ)) y.toRat with hy | hy
  · left
    apply exists_multiple
    rw [pow_add]
    exact_mod_cast hy
  · right
    have hfloor : ((2 ^ 52 * place n : Nat) : ℚ) ≤ n := by
      exact_mod_cast (mul_place_bounds hlow hhigh).1
    rw [toRat_ofNat_large hlow hhigh]
    calc |((divNearest n (place n) * place n : Nat) : ℚ) - n|
        ≤ |((2 ^ 52 * place n : Nat) : ℚ) - n| := divNearest_closest n _ (place_pos n)
      _ = n - (2 ^ 52 * place n : Nat) := by rw [abs_of_nonpos (by linarith), neg_sub]
      _ < n - y.toRat := by linarith
      _ ≤ |y.toRat - n| := by rw [← neg_sub]; exact neg_le_abs _

theorem nearest_ofNat {n : Nat} (h : n < 2 ^ 64) : Nearest n (ofNat n) := by
  rcases Nat.le_total n (2 ^ 53) with hsmall | hlarge
  · have hexact := toRat_ofNat_of_le hsmall
    refine ⟨finite_ofNat h, fun y _ => ?_, fun y _ hne htie => ?_⟩
    · rw [hexact, sub_self, abs_zero]
      exact abs_nonneg _
    · rw [hexact, sub_self, abs_zero, abs_eq_zero, sub_eq_zero] at htie
      exact absurd (htie.trans hexact.symm) hne
  have hlow : 2 ^ 52 ≤ n := by omega
  have hvalue := toRat_ofNat_large hlow h
  refine ⟨finite_ofNat h, fun y _ => ?_, fun y _ hne htie => ?_⟩
  · rcases multiple_or_further hlow h y with ⟨k, hk⟩ | hfar
    · rw [hvalue, hk]
      exact divNearest_closest n k (place_pos n)
    · exact hfar.le
  · rcases multiple_or_further hlow h y with ⟨k, hk⟩ | hfar
    · rw [hvalue, hk] at htie hne
      rcases abs_eq_abs.mp htie with hsame | hopposite
      · exact absurd (sub_left_injective hsame) hne
      apply even_ofNat_large hlow h
      apply divNearest_even (k := k) (place_pos n)
      · rintro rfl
        exact hne rfl
      · have hmiddle : 2 * (n : ℚ) =
            (divNearest n (place n) * place n : Nat) + (k * place n : Nat) := by linarith
        rw [Nat.add_mul]
        exact_mod_cast hmiddle
    · exact absurd htie hfar.ne'

-- Of two neighbours as near the one with an even significand is taken, and the
-- greatest word is rounded up to a power of two.
example : [2 ^ 53 + 1, 2 ^ 53 + 3, 2 ^ 64 - 1].map (fun n => (ofNat n).bits) =
    [0x4340000000000000, 0x4340000000000002, 0x43F0000000000000] := by
  decide

-- Nearest doubles of different numbers are in the same order.
theorem Nearest.mono {n m : Nat} {x y : Binary64} (hx : Nearest n x) (hy : Nearest m y)
    (h : n < m) : x.toRat ≤ y.toRat := by
  have hless : (n : ℚ) < m := by exact_mod_cast h
  by_contra hlt
  rw [not_le] at hlt
  -- the greater of the two is past the middle for the smaller number, or it would not be
  -- the nearest one, and not past it for the greater number
  have hbelow : x.toRat + y.toRat ≤ 2 * n := by
    have hcloser := (le_abs_self _).trans (hx.closest y hy.finite)
    rcases abs_cases (y.toRat - n) with ⟨habs, -⟩ | ⟨habs, -⟩ <;> linarith
  have habove : 2 * (m : ℚ) ≤ x.toRat + y.toRat := by
    have hcloser := (neg_le_abs _).trans (hy.closest x hx.finite)
    rcases abs_cases (x.toRat - m) with ⟨habs, -⟩ | ⟨habs, -⟩ <;> linarith
  linarith

theorem toRat_ofNat_mono {n m : Nat} (hm : m < 2 ^ 64) (h : n ≤ m) :
    (ofNat n).toRat ≤ (ofNat m).toRat := by
  rcases Nat.lt_or_eq_of_le h with hlt | rfl
  · exact (nearest_ofNat (by omega)).mono (nearest_ofNat hm) hlt
  · exact le_refl _

end SysExporter.Binary64
