import SysExporter.Proofs.Text.Numeral
import SysExporter.Proofs.Text.Utf8
import SysExporter.Sql.Row

namespace SysExporter.Sql

open Text

-- The bytes in which a string is stored.
def stored (s : String) : Bytes :=
  s.toUTF8.data.toList

theorem decodeUtf8_stored (s : String) : decodeUtf8 (stored s) = .ok s.toList :=
  decodeUtf8_eq_ok_iff.mpr (encodeUtf8_toList s).symm

theorem eq_stored_of_decodeUtf8 {bytes : Bytes} {text : List Char}
    (h : decodeUtf8 bytes = .ok text) : bytes = stored (.ofList text) := by
  rw [decodeUtf8_eq_ok_iff.mp h, stored, ← encodeUtf8_toList, String.toList_ofList]

-- A text as a column may hold it: as it is, or as its bytes.
inductive Value.HoldsText (s : String) : Value → Prop where
  | plain : HoldsText s (.text s)
  | bytes : HoldsText s (.bytes (stored s))

-- A number as a column may hold it: as one of either sign, or as a numeral in a text.
inductive Value.HoldsNumber (n : UInt64) : Value → Prop where
  | unsigned : HoldsNumber n (.uint n)
  | signed {m : Int64} (same : m.toInt = n.toNat) : HoldsNumber n (.int m)
  | numeral {s : String} {value : Value} (held : value.HoldsText s)
      (padded : Padded n.toNat s.toList) : HoldsNumber n value

theorem toUInt64_eq_iff {m : Nat} {n : UInt64} (h : m < UInt64.size) :
    m.toUInt64 = n ↔ m = n.toNat := by
  rw [← UInt64.toNat_inj, Nat.toUInt64, UInt64.toNat_ofNat', Nat.mod_eq_of_lt h]

theorem readNumeral_eq_ok_iff {index : Nat} {text : List Char} {n : UInt64} :
    readNumeral index text = .ok n ↔ Padded n.toNat text := by
  rw [padded_iff, readNumeral]
  cases hparse : parseUnsigned UInt64.size (trim text) with
  | error fault =>
    constructor
    · intro hread
      cases hread
    · intro hnumeral
      rw [(parseUnsigned_eq_ok_iff (by decide)).mpr ⟨hnumeral, n.toNat_lt⟩] at hparse
      cases hparse
  | ok m =>
    obtain ⟨hnumeral, hlt⟩ := (parseUnsigned_eq_ok_iff (by decide)).mp hparse
    change Except.ok m.toUInt64 = Except.ok n ↔ _
    rw [Except.ok.injEq, toUInt64_eq_iff hlt]
    constructor
    · rintro rfl
      exact hnumeral
    · intro hother
      have hread := (parseUnsigned_eq_ok_iff (by decide)).mpr ⟨hother, n.toNat_lt⟩
      exact Except.ok.inj (hparse.symm.trans hread)

namespace Row

variable {row other : Row} {index : Nat} {value : Value}

theorem column_of_some (h : row.get? index = some value) : row.column index = .ok value := by
  rw [column, h]

theorem column_of_none (h : row.get? index = none) :
    row.column index = .error (.missing index row.size) := by
  rw [column, h]

theorem readText_of_none (h : row.get? index = none) :
    row.readText index = .error (.missing index row.size) := by
  rw [readText, column_of_none h]
  rfl

theorem readUnsigned_of_none (h : row.get? index = none) :
    row.readUnsigned index = .error (.missing index row.size) := by
  rw [readUnsigned, column_of_none h]
  rfl

theorem readText_of_stored {s : String} (h : row.get? index = some (.bytes (stored s))) :
    row.readText index = .ok s := by
  rw [readText, column_of_some h]
  change ((decodeUtf8 (stored s)).mapError _).map String.ofList = _
  rw [decodeUtf8_stored]
  exact congrArg Except.ok String.ofList_toList

theorem readUnsigned_of_text {s : String} (h : row.get? index = some (.text s)) :
    row.readUnsigned index = readNumeral index s.toList := by
  simp only [readUnsigned, column_of_some h, bind, Except.bind]

theorem readUnsigned_of_stored {s : String} (h : row.get? index = some (.bytes (stored s))) :
    row.readUnsigned index = readNumeral index s.toList := by
  simp only [readUnsigned, column_of_some h, bind, Except.bind, decodeUtf8_stored]

theorem readUnsigned_of_int {m : Int64} (h : row.get? index = some (.int m)) :
    row.readUnsigned index =
      if m.toInt < 0 then .error (.negative index m) else .ok m.toInt.toNat.toUInt64 := by
  simp only [readUnsigned, column_of_some h, bind, Except.bind]

-- A number of either sign is read exactly if it is the unsigned one.
theorem readUnsigned_int_iff {m : Int64} {n : UInt64} (h : row.get? index = some (.int m)) :
    row.readUnsigned index = .ok n ↔ m.toInt = n.toNat := by
  have hsize : m.toInt < 2 ^ 63 := m.toInt_lt
  rw [readUnsigned_of_int h]
  by_cases hneg : m.toInt < 0
  · rw [if_pos hneg]
    constructor
    · intro hread
      cases hread
    · intro hsame
      omega
  · have hfits : m.toInt.toNat < UInt64.size := by
      change _ < 2 ^ 64
      omega
    rw [if_neg hneg, Except.ok.injEq, toUInt64_eq_iff hfits]
    omega

theorem readText_eq_ok_iff {s : String} :
    row.readText index = .ok s ↔ ∃ value, row.get? index = some value ∧ value.HoldsText s := by
  constructor
  · intro hread
    cases hget : row.get? index with
    | none =>
      rw [readText_of_none hget] at hread
      cases hread
    | some value =>
      refine ⟨value, rfl, ?_⟩
      cases value with
      | text t =>
        simp only [readText, column_of_some hget, bind, Except.bind] at hread
        cases hread
        exact .plain
      | bytes b =>
        simp only [readText, column_of_some hget, bind, Except.bind] at hread
        cases hdecode : decodeUtf8 b with
        | error fault =>
          rw [hdecode] at hread
          cases hread
        | ok text =>
          rw [hdecode] at hread
          cases hread
          rw [eq_stored_of_decodeUtf8 hdecode]
          exact .bytes
      | null | int | uint | float =>
        simp only [readText, column_of_some hget, bind, Except.bind] at hread
        cases hread
  · rintro ⟨value, hget, hheld⟩
    cases hheld with
    | plain => simp only [readText, column_of_some hget, bind, Except.bind]
    | bytes => exact readText_of_stored hget

theorem readUnsigned_eq_ok_iff {n : UInt64} :
    row.readUnsigned index = .ok n ↔
      ∃ value, row.get? index = some value ∧ value.HoldsNumber n := by
  constructor
  · intro hread
    cases hget : row.get? index with
    | none =>
      rw [readUnsigned_of_none hget] at hread
      cases hread
    | some value =>
      refine ⟨value, rfl, ?_⟩
      cases value with
      | text t =>
        rw [readUnsigned_of_text hget, readNumeral_eq_ok_iff] at hread
        exact .numeral .plain hread
      | bytes b =>
        simp only [readUnsigned, column_of_some hget, bind, Except.bind] at hread
        cases hdecode : decodeUtf8 b with
        | error fault =>
          rw [hdecode] at hread
          cases hread
        | ok text =>
          rw [hdecode] at hread
          rw [eq_stored_of_decodeUtf8 hdecode]
          refine .numeral .bytes ?_
          rw [String.toList_ofList]
          exact readNumeral_eq_ok_iff.mp hread
      | uint m =>
        simp only [readUnsigned, column_of_some hget, bind, Except.bind] at hread
        cases hread
        exact .unsigned
      | int m =>
        exact .signed ((readUnsigned_int_iff hget).mp hread)
      | null | float =>
        simp only [readUnsigned, column_of_some hget, bind, Except.bind] at hread
        cases hread
  · rintro ⟨value, hget, hheld⟩
    cases hheld with
    | unsigned => simp only [readUnsigned, column_of_some hget, bind, Except.bind]
    | signed same => exact (readUnsigned_int_iff hget).mpr same
    | numeral held padded =>
      cases held with
      | plain => rw [readUnsigned_of_text hget, readNumeral_eq_ok_iff.mpr padded]
      | bytes => rw [readUnsigned_of_stored hget, readNumeral_eq_ok_iff.mpr padded]

end Row

-- A text without a numeral below 2 ^ 64: it has nothing but blanks, or a character
-- of no numeral, such as a minus sign, a point or an exponent, or a blank between
-- others, or its number is too large.
inductive Unnumbered : List Char → Prop where
  | blank {text : List Char} (blanks : ∀ c ∈ text, isBlank c = true) : Unnumbered text
  | foreign {text : List Char} {c : Char} (mem : c ∈ text) (visible : isBlank c = false)
      (digit : c.isDigit = false) (plus : c ≠ '+') : Unnumbered text
  | divided {before after : List Char} {first gap last : Char} (blank : isBlank gap = true)
      (start : first ∈ before) (first_visible : isBlank first = false)
      (finish : last ∈ after) (last_visible : isBlank last = false) :
      Unnumbered (before ++ gap :: after)
  | large {text : List Char} {n : Nat} (padded : Padded n text) (size : UInt64.size ≤ n) :
      Unnumbered text

-- A blank that has other characters on both sides does not go with the padding.
theorem not_padded_of_divided {before after : List Char} {first gap last : Char} {n : Nat}
    (hgap : isBlank gap = true) (hstart : first ∈ before) (hfirst : isBlank first = false)
    (hfinish : last ∈ after) (hlast : isBlank last = false) :
    ¬ Padded n (before ++ gap :: after) := by
  rintro ⟨front, numeral, back, htext, hnumeral, hfront, hback⟩
  have hafter : ¬ ∀ c ∈ after, isBlank c = true := by
    intro hall
    rw [hall last hfinish] at hlast
    cases hlast
  rw [List.append_assoc] at htext
  rcases List.append_eq_append_iff.mp htext with ⟨rest, hsplit, hrest⟩ | ⟨rest, hsplit, hrest⟩
  · have hblank := hfront first (hsplit ▸ List.mem_append_left rest hstart)
    rw [hfirst] at hblank
    cases hblank
  · rcases List.append_eq_append_iff.mp hrest with ⟨inner, -, hend⟩ | ⟨inner, hinner, hend⟩
    · apply hafter
      intro c hc
      exact hback c (hend ▸ List.mem_append_right inner (List.mem_cons_of_mem _ hc))
    · cases inner with
      | nil =>
        apply hafter
        intro c hc
        rw [List.nil_append] at hend
        exact hback c (hend ▸ List.mem_cons_of_mem _ hc)
      | cons c inner =>
        obtain ⟨rfl, -⟩ := List.cons.inj hend
        have hvisible := isBlank_of_numeral hnumeral gap (hinner ▸ by simp)
        rw [hgap] at hvisible
        cases hvisible

theorem Unnumbered.not_padded {text : List Char} {n : UInt64} (h : Unnumbered text) :
    ¬ Padded n.toNat text := by
  cases h with
  | blank blanks =>
    rintro ⟨before, numeral, after, rfl, hnumeral, -, -⟩
    obtain ⟨c, hc⟩ := List.exists_mem_of_ne_nil _ (numeral_ne_nil hnumeral)
    have hblank := blanks c (by simp [hc])
    rw [isBlank_of_numeral hnumeral c hc] at hblank
    cases hblank
  | @foreign _ c mem visible digit plus =>
    rintro ⟨before, numeral, after, rfl, hnumeral, hbefore, hafter⟩
    have hnot {blanks : List Char} (hblanks : ∀ c ∈ blanks, isBlank c = true) : c ∉ blanks := by
      intro hc
      rw [hblanks c hc] at visible
      cases visible
    have hc : c ∈ numeral := by simpa [hnot hbefore, hnot hafter] using mem
    rcases isDigit_or_plus_of_numeral hnumeral c hc with hdigit | hplus
    · rw [hdigit] at digit
      cases digit
    · exact plus hplus
  | divided blank start first_visible finish last_visible =>
    exact not_padded_of_divided blank start first_visible finish last_visible
  | large padded size =>
    intro hpadded
    have hlt := n.toNat_lt
    have heq := padded.eq hpadded
    change 2 ^ 64 ≤ _ at size
    omega

-- What a column may hold without holding a number.
inductive Value.HoldsNoNumber : Value → Prop where
  | null : HoldsNoNumber .null
  | float {x : Binary64} : HoldsNoNumber (.float x)
  | negative {m : Int64} (sign : m.toInt < 0) : HoldsNoNumber (.int m)
  | unnumbered {s : String} {value : Value} (held : value.HoldsText s)
      (text : Unnumbered s.toList) : HoldsNoNumber value
  | undecodable {b : Bytes} (never : ∀ s, b ≠ stored s) : HoldsNoNumber (.bytes b)

inductive Value.HoldsNoText : Value → Prop where
  | null : HoldsNoText .null
  | float {x : Binary64} : HoldsNoText (.float x)
  | unsigned {n : UInt64} : HoldsNoText (.uint n)
  | signed {m : Int64} : HoldsNoText (.int m)
  | undecodable {b : Bytes} (never : ∀ s, b ≠ stored s) : HoldsNoText (.bytes b)

theorem stored_injective {s t : String} (h : stored s = stored t) : s = t := by
  have hread := decodeUtf8_stored s
  rw [h, decodeUtf8_stored] at hread
  exact String.toList_injective (Except.ok.inj hread).symm

theorem Value.HoldsText.eq {value : Value} {s t : String} (hs : value.HoldsText s)
    (ht : value.HoldsText t) : s = t := by
  cases hs with
  | plain => cases ht; rfl
  | bytes =>
    generalize hb : stored s = b at ht
    cases ht with
    | bytes => exact stored_injective hb

theorem Value.HoldsText.ne_undecodable {b : Bytes} {s : String} (never : ∀ s, b ≠ stored s) :
    ¬ HoldsText s (.bytes b) := by
  intro held
  generalize hb : Value.bytes b = value at held
  cases held with
  | plain => cases hb
  | bytes => exact never s (Value.bytes.inj hb)

theorem Value.HoldsNoNumber.not_holds {value : Value} {n : UInt64} (h : value.HoldsNoNumber) :
    ¬ value.HoldsNumber n := by
  intro hn
  cases h with
  | null | float =>
    cases hn with
    | numeral held padded => cases held
  | negative sign =>
    cases hn with
    | signed same => omega
    | numeral held padded => cases held
  | unnumbered held text =>
    cases hn with
    | unsigned | signed => cases held
    | numeral other padded => exact text.not_padded (held.eq other ▸ padded)
  | undecodable never =>
    cases hn with
    | numeral held padded => exact HoldsText.ne_undecodable never held

theorem Value.HoldsNoText.not_holds {value : Value} {s : String} (h : value.HoldsNoText) :
    ¬ value.HoldsText s := by
  cases h with
  | null | float | unsigned | signed =>
    intro held
    cases held
  | undecodable never => exact HoldsText.ne_undecodable never

-- The bytes of a text are read like the text itself, faults included.
theorem Row.read_stored {row other : Row} {index : Nat} {s : String}
    (hrow : row.get? index = some (.text s))
    (hother : other.get? index = some (.bytes (stored s))) :
    row.readText index = other.readText index ∧
      row.readUnsigned index = other.readUnsigned index := by
  constructor
  · rw [readText_of_stored hother]
    exact readText_eq_ok_iff.mpr ⟨_, hrow, .plain⟩
  · rw [readUnsigned_of_text hrow, readUnsigned_of_stored hother]

-- A column is read as a number exactly if it holds that number, and as a text exactly
-- if it holds that text. It makes no difference whether a text is held as it is or as
-- its bytes. Every numeral of a number is read back, with zeros in front of it, with or
-- without a plus sign and between any blanks. What holds no number or no text is a fault.
theorem reads_held :
    (∀ (row : Row) (index : Nat) (n : UInt64), row.readUnsigned index = .ok n ↔
      ∃ value, row.get? index = some value ∧ value.HoldsNumber n) ∧
    (∀ (row : Row) (index : Nat) (s : String), row.readText index = .ok s ↔
      ∃ value, row.get? index = some value ∧ value.HoldsText s) ∧
    (∀ (row other : Row) (index : Nat) (s : String), row.get? index = some (.text s) →
      other.get? index = some (.bytes (stored s)) →
      row.readText index = other.readText index ∧
        row.readUnsigned index = other.readUnsigned index) ∧
    (∀ (row : Row) (index : Nat) (value : Value) (n : UInt64) (zeros : Nat)
      (sign before after : List Char), row.get? index = some value →
      (sign = [] ∨ sign = ['+']) → (∀ c ∈ before, isBlank c = true) →
      (∀ c ∈ after, isBlank c = true) →
      value.HoldsText (.ofList (before ++
        (sign ++ (List.replicate zeros '0' ++ Nat.toDigits 10 n.toNat)) ++ after)) →
      row.readUnsigned index = .ok n) ∧
    (∀ (row : Row) (index : Nat) (value : Value), row.get? index = some value →
      (value.HoldsNoNumber → ∃ fault, row.readUnsigned index = .error fault) ∧
      (value.HoldsNoText → ∃ fault, row.readText index = .error fault)) := by
  refine ⟨fun _ _ _ => Row.readUnsigned_eq_ok_iff, fun _ _ _ => Row.readText_eq_ok_iff,
    fun _ _ _ _ => Row.read_stored, ?_, ?_⟩
  · intro row index value n zeros sign before after hget hsign hbefore hafter hheld
    apply Row.readUnsigned_eq_ok_iff.mpr
    refine ⟨value, hget, .numeral hheld ?_⟩
    rw [String.toList_ofList]
    exact ⟨before, _, after, rfl, numeral_toDigits hsign n.toNat zeros, hbefore, hafter⟩
  · intro row index value hget
    constructor
    · intro hno
      apply exists_error_of_ne_ok
      intro n hread
      obtain ⟨other, hother, hheld⟩ := Row.readUnsigned_eq_ok_iff.mp hread
      rw [hget] at hother
      cases hother
      exact hno.not_holds hheld
    · intro hno
      apply exists_error_of_ne_ok
      intro s hread
      obtain ⟨other, hother, hheld⟩ := Row.readText_eq_ok_iff.mp hread
      rw [hget] at hother
      cases hother
      exact hno.not_holds hheld

-- The largest number is read from a decimal text, and one more is not.
example : (readNumeral 0 " +018446744073709551615 ".toList).toOption = some 18446744073709551615 ∧
    (readNumeral 0 "18446744073709551616".toList).toOption = none := by decide

end SysExporter.Sql
