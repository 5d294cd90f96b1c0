import Mathlib.Data.Nat.Basic
import SysExporter.Duration.Reader
import SysExporter.Proofs.Text.Delimiters

namespace SysExporter.Duration

open Text

theorem digitValue?_digitChar {d : Nat} (h : d < 10) : digitValue? d.digitChar = some d := by
  have hall : ∀ d : Fin 10, digitValue? (Nat.digitChar d) = some d.val := by decide
  exact hall ⟨d, h⟩

theorem utf8Size_digitChar {d : Nat} (h : d < 10) : d.digitChar.utf8Size = 1 := by
  have hall : ∀ d : Fin 10, (Nat.digitChar d).utf8Size = 1 := by decide
  exact hall ⟨d, h⟩

namespace Mode

theorem scan_cons {mode next : Mode} {offset : Nat} {c : Char}
    (h : mode.step offset c = .ok (next, none)) (rest : List Char) :
    mode.scan offset (c :: rest) = next.scan (offset + c.utf8Size) rest := by
  simp only [scan, h, Option.toList_none, List.nil_append]

-- The digits of a number that fits one word are read as that number.
theorem scan_toDigits {n : Nat} (h : n < UInt64.size) (offset start : Nat) (rest : List Char) :
    (between start).scan offset (Nat.toDigits 10 n ++ rest) =
      (whole n).scan (offset + (Nat.toDigits 10 n).length) rest := by
  induction n using Nat.strongRecOn generalizing rest with
  | ind n ih =>
    by_cases hn : n < 10
    · have hstep : (between start).step offset n.digitChar = .ok (whole n, none) := by
        simp only [step, digitValue?_digitChar hn]
      rw [Nat.toDigits_of_lt_base hn, List.singleton_append, scan_cons hstep,
        utf8Size_digitChar hn]
      rfl
    · have hlast : n % 10 < 10 := Nat.mod_lt n (by decide)
      have hsplit : n / 10 * 10 + n % 10 = n := Nat.div_add_mod' n 10
      have hstep (offset : Nat) :
          (whole (n / 10)).step offset (n % 10).digitChar = .ok (whole n, none) := by
        simp only [step, digitValue?_digitChar hlast, hsplit, h, if_true]
      rw [Nat.toDigits_of_base_le (by decide) (by omega), List.append_assoc,
        ih (n / 10) (by omega) (by omega), List.singleton_append, scan_cons (hstep _),
        utf8Size_digitChar hlast, List.length_append, Nat.add_assoc]
      rfl

end Mode

theorem addQuantity_seconds {n : Nat} (h : n < UInt64.size) :
    zero.addQuantity ⟨n, none, ['s']⟩ = .ok ⟨n, 0, h, by decide⟩ := by
  have hunit : TimeUnit.ofText? ['s'] = some .second := by decide
  have hscaled : scaled n TimeUnit.second.inSeconds = .ok n := by
    simp [scaled, TimeUnit.inSeconds, h]
  have hparts : ofParts? n 0 = some ⟨n, 0, h, by decide⟩ := by
    simp [ofParts?, h]
  have hadd : zero.add n 0 = .ok ⟨n, 0, h, by decide⟩ := by
    simp [add, zero, Nat.not_le.mpr h, hparts]
  simp only [addQuantity, hunit, addWhole, TimeUnit.inNanos?, hscaled, bind, Except.bind, hadd]
  rfl

-- Any number of seconds that fits one word can be written.
theorem parse_seconds {n : Nat} (h : n < UInt64.size) :
    parse (Nat.toDigits 10 n ++ ['s']) = .ok ⟨n, 0, h, by decide⟩ := by
  have hne : Nat.toDigits 10 n ++ ['s'] ≠ ['0'] := by
    intro heq
    have hlast := congrArg List.getLast? heq
    simp at hlast
  have hscan : Mode.scan 0 (.between 0) (Nat.toDigits 10 n ++ ['s']) =
      ([⟨n, none, ['s']⟩], none) := by
    rw [Mode.scan_toDigits h]
    rfl
  simp only [parse, hne, if_false, hscan, List.foldlM_cons, List.foldlM_nil,
    addQuantity_seconds h]
  rfl

theorem trim_seconds (n : Nat) :
    trim (Nat.toDigits 10 n ++ ['s']) = Nat.toDigits 10 n ++ ['s'] := by
  have hdigits (c : Char) (hc : c ∈ Nat.toDigits 10 n) : isBlank c = false :=
    isBlank_eq_false_of_isDigit (Nat.isDigit_of_mem_toDigits (by decide) (by decide) hc)
  cases hn : Nat.toDigits 10 n with
  | nil => exact absurd hn Nat.toDigits_ne_nil
  | cons first rest =>
    have hfirst : isBlank first = false := hdigits first (hn ▸ List.mem_cons_self)
    exact trim_append_cons hfirst (by decide) rest []

theorem parseTimeout_seconds {n : UInt64} (h : n ≠ 0) :
    parseTimeout s!"{n}s" = .ok (.ofSeconds n) := by
  have htext : s!"{n}s".toList = Nat.toDigits 10 n.toNat ++ ['s'] := by
    have hnumber : (toString n).toList = Nat.toDigits 10 n.toNat := Nat.toList_repr
    have hunit : (toString "s").toList = ['s'] := rfl
    simp [hnumber, hunit]
  have hzero : (ofSeconds n).isZero = false := by
    have hpositive : n.toNat ≠ 0 := fun heq => h (UInt64.toNat_inj.mp heq)
    simp [isZero, ofSeconds, hpositive]
  rw [parseTimeout, htext, trim_seconds, parse_seconds n.toNat_lt]
  change (if (ofSeconds n).isZero then _ else _) = _
  rw [hzero]
  rfl

end SysExporter.Duration
