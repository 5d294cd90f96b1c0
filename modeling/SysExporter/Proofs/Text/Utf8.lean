import SysExporter.Proofs.Result
import SysExporter.Text.Utf8

namespace SysExporter.Text

theorem toNat_toUInt8 {n : Nat} (h : n < 256) : n.toUInt8.toNat = n := by
  rw [Nat.toUInt8, UInt8.toNat_ofNat']
  omega

theorem isContinuation_iff {byte : UInt8} :
    isContinuation byte = true ↔ 0x80 ≤ byte.toNat ∧ byte.toNat ≤ 0xBF := by
  simp [isContinuation, UInt8.le_iff_toNat_le]

theorem secondFits_iff {lead byte : UInt8} :
    secondFits lead byte = true ↔
      (0x80 ≤ byte.toNat ∧ byte.toNat ≤ 0xBF) ∧
      (lead.toNat = 0xE0 → 0xA0 ≤ byte.toNat) ∧ (lead.toNat = 0xED → byte.toNat ≤ 0x9F) ∧
      (lead.toNat = 0xF0 → 0x90 ≤ byte.toNat) ∧ (lead.toNat = 0xF4 → byte.toNat ≤ 0x8F) := by
  have hE0 : lead = 0xE0 ↔ lead.toNat = 0xE0 := UInt8.toNat_inj.symm
  have hED : lead = 0xED ↔ lead.toNat = 0xED := UInt8.toNat_inj.symm
  have hF0 : lead = 0xF0 ↔ lead.toNat = 0xF0 := UInt8.toNat_inj.symm
  have hF4 : lead = 0xF4 ↔ lead.toNat = 0xF4 := UInt8.toNat_inj.symm
  simp only [secondFits, hE0, hED, hF0, hF4]
  split
  · simp [UInt8.le_iff_toNat_le]
    omega
  split
  · simp [UInt8.le_iff_toNat_le]
    omega
  split
  · simp [UInt8.le_iff_toNat_le]
    omega
  split
  · simp [UInt8.le_iff_toNat_le]
    omega
  · rw [isContinuation_iff]
    omega

-- The bytes that begin and continue a character of one to four bytes, and its code.
section

variable {first second third fourth : UInt8}

theorem decode_one (h : first.toNat < 0x80) (index : Nat) (rest : Bytes) :
    decodeUtf8From index (first :: rest) =
      (Char.ofNat first.toNat :: ·) <$> decodeUtf8From (index + 1) rest := by
  have hascii : first < 0x80 := UInt8.lt_iff_toNat_lt.mpr h
  rw [decodeUtf8From.eq_def]
  simp only [hascii, if_true]

theorem lead_iff :
    ¬ (first < 0xC2 || 0xF4 < first) = true ↔ 0xC2 ≤ first.toNat ∧ first.toNat ≤ 0xF4 := by
  simp [UInt8.lt_iff_toNat_lt]

theorem not_lt_of_le {bound : UInt8} (h : bound.toNat ≤ first.toNat) : ¬ first < bound :=
  UInt8.not_lt.mpr (UInt8.le_iff_toNat_le.mpr h)

theorem le_of_not_lt {bound : UInt8} (h : ¬ first < bound) : bound.toNat ≤ first.toNat :=
  UInt8.le_iff_toNat_le.mp (UInt8.not_lt.mp h)

theorem decode_two (hlow : 0xC2 ≤ first.toNat) (hhigh : first.toNat < 0xE0)
    (hsecond : secondFits first second = true) (index : Nat) (rest : Bytes) :
    decodeUtf8From index (first :: second :: rest) =
      (Char.ofNat ((first.toNat - 0xC0) * 0x40 + payload second) :: ·) <$>
        decodeUtf8From (index + 2) rest := by
  have hascii : ¬ first < 0x80 := not_lt_of_le (Nat.le_trans (by decide) hlow)
  have hlead := lead_iff.mpr ⟨hlow, by omega⟩
  have htwo : first < 0xE0 := UInt8.lt_iff_toNat_lt.mpr hhigh
  rw [decodeUtf8From.eq_def]
  simp [hascii, hlead, hsecond, htwo]

theorem decode_three (hlow : 0xE0 ≤ first.toNat) (hhigh : first.toNat < 0xF0)
    (hsecond : secondFits first second = true) (hthird : isContinuation third = true)
    (index : Nat) (rest : Bytes) :
    decodeUtf8From index (first :: second :: third :: rest) =
      (Char.ofNat ((first.toNat - 0xE0) * 0x1000 + payload second * 0x40 + payload third) :: ·) <$>
        decodeUtf8From (index + 3) rest := by
  have hascii : ¬ first < 0x80 := not_lt_of_le (Nat.le_trans (by decide) hlow)
  have hlead := lead_iff.mpr ⟨Nat.le_trans (by decide) hlow, by omega⟩
  have htwo : ¬ first < 0xE0 := not_lt_of_le hlow
  have hthree : first < 0xF0 := UInt8.lt_iff_toNat_lt.mpr hhigh
  rw [decodeUtf8From.eq_def]
  simp [hascii, hlead, hsecond, hthird, htwo, hthree]

theorem decode_four (hlow : 0xF0 ≤ first.toNat) (hhigh : first.toNat ≤ 0xF4)
    (hsecond : secondFits first second = true) (hthird : isContinuation third = true)
    (hfourth : isContinuation fourth = true) (index : Nat) (rest : Bytes) :
    decodeUtf8From index (first :: second :: third :: fourth :: rest) =
      (Char.ofNat ((first.toNat - 0xF0) * 0x40000 + payload second * 0x1000 +
        payload third * 0x40 + payload fourth) :: ·) <$> decodeUtf8From (index + 4) rest := by
  have hascii : ¬ first < 0x80 := not_lt_of_le (Nat.le_trans (by decide) hlow)
  have hlead := lead_iff.mpr ⟨Nat.le_trans (by decide) hlow, hhigh⟩
  have htwo : ¬ first < 0xE0 := not_lt_of_le (Nat.le_trans (by decide) hlow)
  have hthree : ¬ first < 0xF0 := not_lt_of_le hlow
  rw [decodeUtf8From.eq_def]
  simp [hascii, hlead, hsecond, hthird, hfourth, htwo, hthree]

end

theorem toNat_valid (c : Char) :
    c.toNat < 0xD800 ∨ 0xDFFF < c.toNat ∧ c.toNat < 0x110000 :=
  c.valid

-- The code of a character is cut into six bits a byte, which are put together again.
theorem decode_encodeChar (c : Char) (index : Nat) (rest : Bytes) :
    decodeUtf8From index (encodeChar c ++ rest) =
      (c :: ·) <$> decodeUtf8From (index + (encodeChar c).length) rest := by
  have hvalid := toNat_valid c
  have hchar {code : Nat} (h : code = c.toNat) : Char.ofNat code = c := h ▸ c.ofNat_toNat
  unfold encodeChar
  by_cases hone : c.toNat < 0x80
  · have hfirst : c.toNat.toUInt8.toNat = c.toNat := toNat_toUInt8 (by omega)
    simp only [hone, if_true, List.singleton_append, List.length_singleton]
    rw [decode_one (by omega), hchar hfirst]
  by_cases htwo : c.toNat < 0x800
  · have hfirst : (0xC0 + c.toNat / 0x40).toUInt8.toNat = 0xC0 + c.toNat / 0x40 :=
      toNat_toUInt8 (by omega)
    have hsecond : (0x80 + c.toNat % 0x40).toUInt8.toNat = 0x80 + c.toNat % 0x40 :=
      toNat_toUInt8 (by omega)
    simp only [hone, htwo, if_true, if_false, List.cons_append, List.nil_append]
    rw [decode_two (by omega) (by omega) (secondFits_iff.mpr (by omega)), hchar]
    · rfl
    · unfold payload
      omega
  by_cases hthree : c.toNat < 0x10000
  · have hfirst : (0xE0 + c.toNat / 0x1000).toUInt8.toNat = 0xE0 + c.toNat / 0x1000 :=
      toNat_toUInt8 (by omega)
    have hsecond : (0x80 + c.toNat / 0x40 % 0x40).toUInt8.toNat = 0x80 + c.toNat / 0x40 % 0x40 :=
      toNat_toUInt8 (by omega)
    have hthird : (0x80 + c.toNat % 0x40).toUInt8.toNat = 0x80 + c.toNat % 0x40 :=
      toNat_toUInt8 (by omega)
    simp only [hone, htwo, hthree, if_true, if_false, List.cons_append, List.nil_append]
    rw [decode_three (by omega) (by omega) (secondFits_iff.mpr (by omega))
      (isContinuation_iff.mpr (by omega)), hchar]
    · rfl
    · unfold payload
      omega
  · have hfirst : (0xF0 + c.toNat / 0x40000).toUInt8.toNat = 0xF0 + c.toNat / 0x40000 :=
      toNat_toUInt8 (by omega)
    have hsecond : (0x80 + c.toNat / 0x1000 % 0x40).toUInt8.toNat =
        0x80 + c.toNat / 0x1000 % 0x40 :=
      toNat_toUInt8 (by omega)
    have hthird : (0x80 + c.toNat / 0x40 % 0x40).toUInt8.toNat = 0x80 + c.toNat / 0x40 % 0x40 :=
      toNat_toUInt8 (by omega)
    have hfourth : (0x80 + c.toNat % 0x40).toUInt8.toNat = 0x80 + c.toNat % 0x40 :=
      toNat_toUInt8 (by omega)
    simp only [hone, htwo, hthree, if_false, List.cons_append, List.nil_append]
    rw [decode_four (by omega) (by omega) (secondFits_iff.mpr (by omega))
      (isContinuation_iff.mpr (by omega)) (isContinuation_iff.mpr (by omega)), hchar]
    · rfl
    · unfold payload
      omega

section

variable {first second third fourth : UInt8} {code : Nat}

theorem toUInt8_eq {n : Nat} (byte : UInt8) (h : n = byte.toNat) : n.toUInt8 = byte := by
  rw [h, Nat.toUInt8, UInt8.ofNat_toNat]

theorem toNat_ofNat (h : code < 0xD800 ∨ 0xDFFF < code ∧ code < 0x110000) :
    (Char.ofNat code).toNat = code := by
  have hvalid : code.isValidChar := h
  rw [Char.ofNat, dif_pos hvalid]
  rfl

theorem encodeChar_one (h : first.toNat < 0x80) :
    encodeChar (Char.ofNat first.toNat) = [first] := by
  unfold encodeChar
  rw [toNat_ofNat (by omega)]
  simp only [h, if_true]
  rw [toUInt8_eq first rfl]

theorem encodeChar_two (hlow : 0xC2 ≤ first.toNat) (hhigh : first.toNat < 0xE0)
    (hsecond : secondFits first second = true)
    (hcode : code = (first.toNat - 0xC0) * 0x40 + payload second) :
    encodeChar (Char.ofNat code) = [first, second] := by
  rw [secondFits_iff] at hsecond
  unfold payload at hcode
  have hone : ¬ code < 0x80 := by omega
  have htwo : code < 0x800 := by omega
  unfold encodeChar
  rw [toNat_ofNat (by omega)]
  simp only [hone, htwo, if_true, if_false]
  rw [toUInt8_eq first (by omega), toUInt8_eq second (by omega)]

theorem encodeChar_three (hlow : 0xE0 ≤ first.toNat) (hhigh : first.toNat < 0xF0)
    (hsecond : secondFits first second = true) (hthird : isContinuation third = true)
    (hcode : code = (first.toNat - 0xE0) * 0x1000 + payload second * 0x40 + payload third) :
    encodeChar (Char.ofNat code) = [first, second, third] := by
  rw [secondFits_iff] at hsecond
  rw [isContinuation_iff] at hthird
  unfold payload at hcode
  have htwo : ¬ code < 0x800 := by omega
  have hone : ¬ code < 0x80 := by omega
  have hthree : code < 0x10000 := by omega
  unfold encodeChar
  rw [toNat_ofNat (by omega)]
  simp only [hone, htwo, hthree, if_true, if_false]
  rw [toUInt8_eq first (by omega), toUInt8_eq second (by omega),
    toUInt8_eq third (by omega)]

theorem encodeChar_four (hlow : 0xF0 ≤ first.toNat) (hhigh : first.toNat ≤ 0xF4)
    (hsecond : secondFits first second = true) (hthird : isContinuation third = true)
    (hfourth : isContinuation fourth = true)
    (hcode : code = (first.toNat - 0xF0) * 0x40000 + payload second * 0x1000 +
      payload third * 0x40 + payload fourth) :
    encodeChar (Char.ofNat code) = [first, second, third, fourth] := by
  rw [secondFits_iff] at hsecond
  rw [isContinuation_iff] at hthird hfourth
  unfold payload at hcode
  have hthree : ¬ code < 0x10000 := by omega
  have htwo : ¬ code < 0x800 := by omega
  have hone : ¬ code < 0x80 := by omega
  unfold encodeChar
  rw [toNat_ofNat (by omega)]
  simp only [hone, htwo, hthree, if_false]
  rw [toUInt8_eq first (by omega), toUInt8_eq second (by omega),
    toUInt8_eq third (by omega), toUInt8_eq fourth (by omega)]

end

theorem encodeUtf8_cons {bytes front : Bytes} {c : Char} {text : List Char}
    (hfront : encodeChar c = front) (hbytes : bytes = encodeUtf8 text) :
    front ++ bytes = encodeUtf8 (c :: text) := by
  rw [encodeUtf8, List.flatMap_cons, hfront, hbytes, encodeUtf8]

-- The cases are those of the reader: four of them read a character, and the others
-- are faults.
theorem eq_encodeUtf8 {index : Nat} {bytes : Bytes} {text : List Char}
    (h : decodeUtf8From index bytes = .ok text) : bytes = encodeUtf8 text := by
  fun_induction decodeUtf8From index bytes generalizing text with
  | case1 =>
    cases h
    rfl
  | case2 index first rest hascii ih =>
    obtain ⟨tail, htail, rfl⟩ := map_eq_ok_iff.mp h
    exact encodeUtf8_cons (encodeChar_one (UInt8.lt_iff_toNat_lt.mp hascii)) (ih htail)
  | case6 index first hascii hlead second rest hsecond htwo ih =>
    obtain ⟨tail, htail, rfl⟩ := map_eq_ok_iff.mp h
    rw [Bool.not_eq_true', Bool.not_eq_false] at hsecond
    exact encodeUtf8_cons (encodeChar_two (lead_iff.mp hlead).1 (UInt8.lt_iff_toNat_lt.mp htwo)
      hsecond rfl) (ih htail)
  | case9 index first hascii hlead second hsecond htwo third rest hthird hthree ih =>
    obtain ⟨tail, htail, rfl⟩ := map_eq_ok_iff.mp h
    rw [Bool.not_eq_true', Bool.not_eq_false] at hsecond hthird
    exact encodeUtf8_cons (encodeChar_three (le_of_not_lt htwo)
      (UInt8.lt_iff_toNat_lt.mp hthree) hsecond hthird rfl) (ih htail)
  | case12 index first hascii hlead second hsecond htwo third hthird hthree fourth rest hfourth
      ih =>
    obtain ⟨tail, htail, rfl⟩ := map_eq_ok_iff.mp h
    rw [Bool.not_eq_true', Bool.not_eq_false] at hsecond hthird hfourth
    exact encodeUtf8_cons (encodeChar_four (le_of_not_lt hthree) (lead_iff.mp hlead).2
      hsecond hthird hfourth rfl) (ih htail)
  | case3 | case4 | case5 | case7 | case8 | case10 | case11 => cases h

theorem decode_encodeUtf8 (text : List Char) (index : Nat) :
    decodeUtf8From index (encodeUtf8 text) = .ok text := by
  induction text generalizing index with
  | nil => rfl
  | cons c rest ih =>
    rw [encodeUtf8, List.flatMap_cons, decode_encodeChar, ← encodeUtf8, ih]
    rfl

theorem decodeUtf8_eq_ok_iff {bytes : Bytes} {text : List Char} :
    decodeUtf8 bytes = .ok text ↔ bytes = encodeUtf8 text := by
  constructor
  · exact eq_encodeUtf8
  · rintro rfl
    exact decode_encodeUtf8 text 0

theorem encodeChar_eq (c : Char) : encodeChar c = String.utf8EncodeChar c := by
  have hvalid := toNat_valid c
  have hbyte {m n : Nat} (h : m = n) : m.toUInt8 = UInt8.ofNat n := congrArg _ h
  have hval : c.val.toNat = c.toNat := rfl
  simp only [encodeChar, String.utf8EncodeChar, hval]
  by_cases hone : c.toNat < 0x80
  · rw [if_pos hone, if_pos (by omega), hbyte rfl]
  by_cases htwo : c.toNat < 0x800
  · rw [if_neg hone, if_pos htwo, if_neg (by omega), if_pos (by omega), hbyte, hbyte] <;> omega
  by_cases hthree : c.toNat < 0x10000
  · rw [if_neg hone, if_neg htwo, if_pos hthree, if_neg (by omega), if_neg (by omega),
      if_pos (by omega), hbyte, hbyte, hbyte] <;> omega
  · rw [if_neg hone, if_neg htwo, if_neg hthree, if_neg (by omega), if_neg (by omega),
      if_neg (by omega), hbyte, hbyte, hbyte, hbyte] <;> omega

-- The bytes of a string are those in which it is stored.
theorem encodeUtf8_toList (s : String) : encodeUtf8 s.toList = s.toUTF8.data.toList := by
  have hstored : s.toList.utf8Encode = s.toUTF8 := String.utf8Encode_toList
  have hchars : encodeChar = String.utf8EncodeChar := funext encodeChar_eq
  rw [← hstored, List.utf8Encode, List.toList_data_toByteArray, encodeUtf8, hchars]

end SysExporter.Text
