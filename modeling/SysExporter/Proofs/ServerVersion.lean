import Mathlib.Algebra.Ring.Nat
import SysExporter.Proofs.Text.Numeral
import SysExporter.ServerVersion

namespace SysExporter.ServerVersion

open Text

-- A text begins with a run of digits and points, and the run goes no further.
def Leads (run text : List Char) : Prop :=
  ∃ rest, text = run ++ rest ∧ (∀ c ∈ run, c.isDigit = true ∨ c = '.') ∧
    ∀ c ∈ rest.head?, ¬ (c.isDigit = true ∨ c = '.')

-- The pieces of a run. Each is cut off at the next point, and points in a row have
-- no piece between them.
inductive Dotted : List Char → List (List Char) → Prop where
  | nil : Dotted [] []
  | point {text : List Char} {cs : List (List Char)} (rest : Dotted text cs) :
      Dotted ('.' :: text) cs
  | last {piece : List Char} (nonempty : piece ≠ []) (whole : '.' ∉ piece) :
      Dotted piece [piece]
  | next {piece text : List Char} {cs : List (List Char)} (nonempty : piece ≠ [])
      (whole : '.' ∉ piece) (rest : Dotted text cs) : Dotted (piece ++ '.' :: text) (piece :: cs)

-- The number that a piece writes.
def number (piece : List Char) : Nat :=
  Nat.ofDigitChars 10 piece 0

-- The version that pieces write: the first two are needed, the third counts as zero if
-- it is missing, and all others are ignored.
def Writes (cs : List (List Char)) (v : ServerVersion) : Prop :=
  ∃ major minor, cs[0]? = some major ∧ cs[1]? = some minor ∧ number major = v.major.toNat ∧
    number minor = v.minor.toNat ∧ (cs[2]?.map number).getD 0 = v.patch.toNat

-- Two numbers are there, and the first three that are there fit one word each.
def Fits (cs : List (List Char)) : Prop :=
  2 ≤ cs.length ∧ ∀ piece ∈ cs.take 3, number piece < 2 ^ 32

theorem isNumeric_iff {c : Char} : isNumeric c = true ↔ c.isDigit = true ∨ c = '.' := by
  rw [isNumeric, Bool.or_eq_true, beq_iff_eq]
  rfl

theorem isBlank_of_isNumeric {c : Char} (h : isNumeric c = true) : isBlank c = false := by
  rcases isNumeric_iff.mp h with hdigit | rfl
  · exact isBlank_eq_false_of_isDigit hdigit
  · rfl

section

variable {run text : List Char} {cs : List (List Char)}

theorem leads_iff : Leads run text ↔ text.takeWhile isNumeric = run := by
  constructor
  · rintro ⟨rest, rfl, hrun, hrest⟩
    rw [List.takeWhile_append_of_pos fun c hc => isNumeric_iff.mpr (hrun c hc)]
    cases rest with
    | nil => simp
    | cons c rest =>
      have hc : ¬ isNumeric c = true := fun h => hrest c rfl (isNumeric_iff.mp h)
      rw [List.takeWhile_cons_of_neg hc, List.append_nil]
  · rintro rfl
    refine ⟨text.dropWhile isNumeric, List.takeWhile_append_dropWhile.symm, ?_, ?_⟩
    · intro c hc
      exact isNumeric_iff.mp (List.all_eq_true.mp List.all_takeWhile c hc)
    · intro c hc hnumeric
      have hnot := List.head?_dropWhile_not isNumeric text
      rw [Option.mem_def.mp hc] at hnot
      exact absurd (isNumeric_iff.mpr hnumeric) (by simpa using hnot)

-- No blank is in a run, so the blanks behind the text play no part.
theorem leads_trimEnd_iff : Leads run (trimEnd text) ↔ Leads run text := by
  have hleads {run : List Char} (h : Leads run (trimEnd text)) : Leads run text := by
    obtain ⟨rest, htrim, hrun, hrest⟩ := h
    obtain ⟨after, htext, hafter⟩ := exists_trimEnd_append text
    refine ⟨rest ++ after, by rw [← List.append_assoc, ← htrim]; exact htext, hrun, ?_⟩
    cases rest with
    | cons c rest => exact hrest
    | nil =>
      intro c hc hnumeric
      have hblank : isBlank c = true := hafter c (List.mem_of_mem_head? hc)
      rw [isBlank_of_isNumeric (isNumeric_iff.mpr hnumeric)] at hblank
      cases hblank
  refine ⟨hleads, fun h => ?_⟩
  have htake : text.takeWhile isNumeric = (trimEnd text).takeWhile isNumeric :=
    leads_iff.mp (hleads (leads_iff.mpr rfl))
  exact leads_iff.mpr (htake.symm.trans (leads_iff.mp h))

theorem exists_dotted (text : List Char) : ∃ cs, Dotted text cs := by
  induction text with
  | nil => exact ⟨[], .nil⟩
  | cons c rest ih =>
    obtain ⟨cs, hrest⟩ := ih
    by_cases hc : c = '.'
    · exact ⟨cs, hc ▸ .point hrest⟩
    have hne : c :: rest ≠ [] := List.cons_ne_nil c rest
    have hpoint : '.' ≠ c := fun h => hc h.symm
    -- the character begins a piece, or goes to the piece that comes first
    cases hrest with
    | nil => exact ⟨_, .last hne (by simpa using hpoint)⟩
    | point rest =>
      have hwhole : '.' ∉ [c] := by simpa using hpoint
      exact ⟨_, .next (List.cons_ne_nil c []) hwhole rest⟩
    | last nonempty whole => exact ⟨_, .last hne (by simp [hpoint, whole])⟩
    | @next piece text cs nonempty whole rest =>
      have hwhole : '.' ∉ c :: piece := by simp [hpoint, whole]
      exact ⟨_, .next (List.cons_ne_nil c piece) hwhole rest⟩

theorem pieces_of_dotted (h : Dotted text cs) : pieces text = cs := by
  induction h with
  | nil => rfl
  | @point text cs rest ih =>
    have hsplit : ('.' :: text).splitOn '.' = [] :: text.splitOn '.' :=
      List.splitOn_append_cons_self_of_not_mem List.not_mem_nil text
    rw [pieces, hsplit, List.filter_cons_of_neg (by simp)]
    exact ih
  | last nonempty whole =>
    rw [pieces, List.splitOn_eq_singleton whole, List.filter_cons_of_pos (by simpa using nonempty)]
    rfl
  | next nonempty whole rest ih =>
    rw [pieces, List.splitOn_append_cons_self_of_not_mem whole,
      List.filter_cons_of_pos (by simpa using nonempty)]
    exact congrArg _ ih

theorem digits_of_dotted (h : Dotted text cs) (hrun : ∀ c ∈ text, c.isDigit = true ∨ c = '.') :
    ∀ piece ∈ cs, Digits (number piece) piece := by
  have hdigits {piece : List Char} (nonempty : piece ≠ []) (whole : '.' ∉ piece)
      (hpiece : ∀ c ∈ piece, c.isDigit = true ∨ c = '.') : Digits (number piece) piece := by
    refine ⟨nonempty, fun c hc => (hpiece c hc).resolve_right ?_, rfl⟩
    rintro rfl
    exact whole hc
  induction h with
  | nil => simp
  | point rest ih => exact ih fun c hc => hrun c (List.mem_cons_of_mem _ hc)
  | last nonempty whole =>
    intro piece hpiece
    rw [List.mem_singleton.mp hpiece]
    exact hdigits nonempty whole hrun
  | next nonempty whole rest ih =>
    refine List.forall_mem_cons.mpr ⟨hdigits nonempty whole ?_, ih ?_⟩
    · exact fun c hc => hrun c (List.mem_append_left _ hc)
    · exact fun c hc => hrun c (List.mem_append_right _ (List.mem_cons_of_mem _ hc))

end

theorem readPiece_eq_some_iff {piece : List Char} {n : UInt32} (h : Digits (number piece) piece) :
    readPiece piece = some n ↔ number piece = n.toNat := by
  have hsize : 0 < UInt32.size := by decide
  rw [readPiece, Option.map_eq_some_iff]
  constructor
  · rintro ⟨value, hvalue, rfl⟩
    have hparse : parseUnsigned UInt32.size piece = .ok value := by
      cases hread : parseUnsigned UInt32.size piece with
      | ok read => rw [hread] at hvalue; exact congrArg _ (Option.some.inj hvalue)
      | error fault => rw [hread] at hvalue; cases hvalue
    obtain ⟨hnumeral, hfits⟩ := (parseUnsigned_eq_ok_iff hsize).mp hparse
    rw [(Numeral.plain h).eq hnumeral]
    exact (UInt32.toNat_ofNat_of_lt hfits).symm
  · intro hnumber
    have hparse : parseUnsigned UInt32.size piece = .ok n.toNat :=
      (parseUnsigned_eq_ok_iff hsize).mpr ⟨.plain (hnumber ▸ h), n.toNat_lt⟩
    exact ⟨n.toNat, by rw [hparse]; rfl, UInt32.ofNat_toNat⟩

section

variable {cs : List (List Char)}

theorem writes_two {major minor : List Char} {v : ServerVersion} :
    Writes [major, minor] v ↔
      number major = v.major.toNat ∧ number minor = v.minor.toNat ∧ 0 = v.patch.toNat := by
  simp [Writes]

theorem writes_three {major minor patch : List Char} {others : List (List Char)}
    {v : ServerVersion} : Writes (major :: minor :: patch :: others) v ↔
      number major = v.major.toNat ∧ number minor = v.minor.toNat ∧
        number patch = v.patch.toNat := by
  simp [Writes]

theorem ofPieces_eq_some_iff (h : ∀ piece ∈ cs, Digits (number piece) piece) (v : ServerVersion) :
    ofPieces cs = some v ↔ Writes cs v := by
  match cs with
  | [] => simp [ofPieces, Writes]
  | [major] => simp [ofPieces, Writes]
  | [major, minor] =>
    simp only [List.forall_mem_cons] at h
    obtain ⟨hmajor, hminor, -⟩ := h
    rw [writes_two, ← readPiece_eq_some_iff hmajor, ← readPiece_eq_some_iff hminor]
    simp only [ofPieces, Option.bind_eq_bind, Option.bind_eq_some_iff]
    constructor
    · rintro ⟨a, ha, b, hb, ⟨⟩⟩
      exact ⟨ha, hb, rfl⟩
    · rintro ⟨ha, hb, hpatch⟩
      have hzero : 0 = v.patch := UInt32.toNat_inj.mp hpatch
      exact ⟨v.major, ha, v.minor, hb, by rw [hzero]; rfl⟩
  | major :: minor :: patch :: others =>
    simp only [List.forall_mem_cons] at h
    obtain ⟨hmajor, hminor, hpatch, -⟩ := h
    rw [writes_three, ← readPiece_eq_some_iff hmajor, ← readPiece_eq_some_iff hminor,
      ← readPiece_eq_some_iff hpatch]
    simp only [ofPieces, Option.bind_eq_bind, Option.bind_eq_some_iff]
    constructor
    · rintro ⟨a, ha, b, hb, c, hc, ⟨⟩⟩
      exact ⟨ha, hb, hc⟩
    · exact fun ⟨ha, hb, hc⟩ => ⟨v.major, ha, v.minor, hb, v.patch, hc, rfl⟩

theorem lt_iff_exists_toNat {n : Nat} : n < 2 ^ 32 ↔ ∃ m : UInt32, n = m.toNat := by
  constructor
  · exact fun hn => ⟨.ofNat n, (UInt32.toNat_ofNat_of_lt hn).symm⟩
  · rintro ⟨m, rfl⟩
    exact m.toNat_lt

theorem exists_writes_iff : (∃ v, Writes cs v) ↔ Fits cs := by
  match cs with
  | [] => simp [Writes, Fits]
  | [major] => simp [Writes, Fits]
  | [major, minor] =>
    simp only [writes_two, Fits, lt_iff_exists_toNat, List.take_succ_cons, List.take_nil,
      List.forall_mem_cons]
    constructor
    · rintro ⟨v, hmajor, hminor, -⟩
      exact ⟨by simp, ⟨_, hmajor⟩, ⟨_, hminor⟩, by simp⟩
    · rintro ⟨-, ⟨a, ha⟩, ⟨b, hb⟩, -⟩
      exact ⟨⟨a, b, 0⟩, ha, hb, rfl⟩
  | major :: minor :: patch :: others =>
    simp only [writes_three, Fits, lt_iff_exists_toNat, List.take_succ_cons, List.take_zero,
      List.forall_mem_cons]
    constructor
    · rintro ⟨v, hmajor, hminor, hpatch⟩
      exact ⟨by simp, ⟨_, hmajor⟩, ⟨_, hminor⟩, ⟨_, hpatch⟩, by simp⟩
    · rintro ⟨-, ⟨a, ha⟩, ⟨b, hb⟩, ⟨c, hc⟩, -⟩
      exact ⟨⟨a, b, c⟩, ha, hb, hc⟩

end

-- What is parsed is the run of digits and points that a text leads with once it is trimmed.
theorem parse_of_leads {run : List Char} {raw : String} (h : Leads run (trim raw.toList)) :
    parse raw = (ofPieces (pieces run)).elim (.error ⟨raw⟩) .ok := by
  rw [parse, leads_iff.mp h]
  cases ofPieces (pieces run) <;> rfl

theorem parse_eq_ok_iff {run : List Char} {cs : List (List Char)} {raw : String}
    (hleads : Leads run (trim raw.toList)) (hdotted : Dotted run cs) (v : ServerVersion) :
    parse raw = .ok v ↔ Writes cs v := by
  obtain ⟨rest, -, hrun, -⟩ := id hleads
  rw [parse_of_leads hleads, pieces_of_dotted hdotted,
    ← ofPieces_eq_some_iff (digits_of_dotted hdotted hrun)]
  cases ofPieces cs <;> simp

theorem parse_eq_error_iff {run : List Char} {cs : List (List Char)} {raw : String}
    (hleads : Leads run (trim raw.toList)) (hdotted : Dotted run cs) (fault : ParseFault) :
    parse raw = .error fault ↔ fault = ⟨raw⟩ ∧ ¬ Fits cs := by
  have hok := parse_eq_ok_iff hleads hdotted
  rw [← exists_writes_iff]
  simp only [← hok]
  rw [parse_of_leads hleads]
  cases ofPieces (pieces run) <;> simp [eq_comm]

theorem toList_toText (v : ServerVersion) :
    v.toText.toList = Nat.toDigits 10 v.major.toNat ++ '.' :: (Nat.toDigits 10 v.minor.toNat ++
      if v.patch = 0 then [] else '.' :: Nat.toDigits 10 v.patch.toNat) := by
  have hnumber (n : UInt32) : (toString n).toList = Nat.toDigits 10 n.toNat := Nat.toList_repr
  have hpoint : (toString ".").toList = ['.'] := rfl
  rw [toText]
  split
  · simp [hnumber, hpoint]
  · simp [hnumber, hpoint]

theorem number_toDigits (n : Nat) : number (Nat.toDigits 10 n) = n :=
  Nat.ofDigitChars_ten_toDigits

theorem dotted_toText (v : ServerVersion) :
    Dotted v.toText.toList ([Nat.toDigits 10 v.major.toNat, Nat.toDigits 10 v.minor.toNat] ++
      if v.patch = 0 then [] else [Nat.toDigits 10 v.patch.toNat]) := by
  have hwhole (n : Nat) : '.' ∉ Nat.toDigits 10 n := fun hc =>
    absurd (Nat.isDigit_of_mem_toDigits (by decide) (by decide) hc) (by decide)
  rw [toList_toText]
  split
  · rw [List.append_nil]
    exact .next Nat.toDigits_ne_nil (hwhole _) (.last Nat.toDigits_ne_nil (hwhole _))
  · exact .next Nat.toDigits_ne_nil (hwhole _)
      (.next Nat.toDigits_ne_nil (hwhole _) (.last Nat.toDigits_ne_nil (hwhole _)))

theorem writes_toText (v : ServerVersion) :
    Writes ([Nat.toDigits 10 v.major.toNat, Nat.toDigits 10 v.minor.toNat] ++
      if v.patch = 0 then [] else [Nat.toDigits 10 v.patch.toNat]) v := by
  split
  · next hpatch =>
    have hzero : 0 = v.patch.toNat := by rw [hpatch]; rfl
    exact writes_two.mpr ⟨number_toDigits _, number_toDigits _, hzero⟩
  · exact writes_three.mpr ⟨number_toDigits _, number_toDigits _, number_toDigits _⟩

theorem isNumeric_of_mem_toText {v : ServerVersion} :
    ∀ c ∈ v.toText.toList, c.isDigit = true ∨ c = '.' := by
  have hdigit {n : Nat} {c : Char} (hc : c ∈ Nat.toDigits 10 n) : c.isDigit = true :=
    Nat.isDigit_of_mem_toDigits (by decide) (by decide) hc
  intro c hc
  rw [toList_toText, List.mem_append, List.mem_cons, List.mem_append] at hc
  rcases hc with hmajor | rfl | hminor | hpatch
  · exact .inl (hdigit hmajor)
  · exact .inr rfl
  · exact .inl (hdigit hminor)
  · split at hpatch
    · cases hpatch
    · exact (List.mem_cons.mp hpatch).symm.imp hdigit id

theorem parse_toText (v : ServerVersion) {leading suffix : List Char}
    (hleading : ∀ c ∈ leading, isBlank c = true)
    (hsuffix : ∀ c ∈ suffix.head?, ¬ (c.isDigit = true ∨ c = '.')) :
    parse (.ofList (leading ++ v.toText.toList ++ suffix)) = .ok v := by
  have hnumeric := isNumeric_of_mem_toText (v := v)
  have htrim : trimStart (leading ++ (v.toText.toList ++ suffix)) = v.toText.toList ++ suffix :=
    dropWhile_append_of_neg suffix hleading
      (fun c hc => isBlank_of_isNumeric (isNumeric_iff.mpr (hnumeric c hc)))
      (by simp [toList_toText, Nat.toDigits_ne_nil])
  have hleads : Leads v.toText.toList (trim (leading ++ v.toText.toList ++ suffix)) := by
    rw [trim, List.append_assoc, htrim, leads_trimEnd_iff]
    exact ⟨suffix, rfl, hnumeric, hsuffix⟩
  rw [← String.toList_ofList (l := leading ++ v.toText.toList ++ suffix)] at hleads
  exact (parse_eq_ok_iff hleads (dotted_toText v) v).mpr (writes_toText v)

-- What a version shows is read back as that version. Every text has one run and one way to cut
-- it into pieces, and these alone say whether it is a version and which.
theorem parse_grammar :
    (∀ (v : ServerVersion) (leading suffix : List Char), (∀ c ∈ leading, isBlank c = true) →
      (∀ c ∈ suffix.head?, ¬ (c.isDigit = true ∨ c = '.')) →
      parse (.ofList (leading ++ v.toText.toList ++ suffix)) = .ok v) ∧
    (∀ raw : String, ∃ run cs, ∀ run' cs',
      Leads run' (trim raw.toList) ∧ Dotted run' cs' ↔ run' = run ∧ cs' = cs) ∧
    (∀ (raw : String) run cs, Leads run (trim raw.toList) → Dotted run cs →
      (∀ v, parse raw = .ok v ↔ Writes cs v) ∧
      ((∃ v, parse raw = .ok v) ↔ Fits cs) ∧
      (∀ fault, parse raw = .error fault ↔ fault = ⟨raw⟩ ∧ ¬ Fits cs)) ∧
    (∀ (raw other : String) run, Leads run (trim raw.toList) → Leads run (trim other.toList) →
      (parse raw).toOption = (parse other).toOption) := by
  refine ⟨fun v leading suffix => parse_toText v, ?_, ?_, ?_⟩
  · intro raw
    obtain ⟨cs, hdotted⟩ := exists_dotted ((trim raw.toList).takeWhile isNumeric)
    refine ⟨(trim raw.toList).takeWhile isNumeric, cs, fun run' cs' => ⟨?_, ?_⟩⟩
    · rintro ⟨hleads, hdotted'⟩
      have hrun := leads_iff.mp hleads
      subst hrun
      exact ⟨rfl, (pieces_of_dotted hdotted').symm.trans (pieces_of_dotted hdotted)⟩
    · rintro ⟨rfl, rfl⟩
      exact ⟨leads_iff.mpr rfl, hdotted⟩
  · intro raw run cs hleads hdotted
    have hok := parse_eq_ok_iff hleads hdotted
    refine ⟨hok, ?_, parse_eq_error_iff hleads hdotted⟩
    rw [← exists_writes_iff]
    exact exists_congr hok
  · intro raw other run hraw hother
    rw [parse_of_leads hraw, parse_of_leads hother]
    cases ofPieces (pieces run) <;> rfl

-- Points in a row count once, and a third number that is too large is a fault.
example : (parse " 8..0.36-log.9").toOption = some ⟨8, 0, 36⟩ ∧
    (parse "8.0.4294967296").toOption = none := by decide

end SysExporter.ServerVersion
