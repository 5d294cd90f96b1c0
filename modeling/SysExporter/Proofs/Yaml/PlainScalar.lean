import Mathlib.Data.List.Basic
import SysExporter.Proofs.Text.Delimiters
import SysExporter.Yaml.Document

namespace SysExporter.Yaml

-- A character that may stand anywhere in a word of a scalar without quotes.
structure Inner (c : Char) : Prop where
  spacing : isSpacing c = false
  notBreak : isBreak c = false
  colon : c ≠ ':'
  hash : c ≠ '#'
  allowed : isTextChar c = true

-- Digits, letters and the micro sign.
theorem inner_of_code {c : Char}
    (h : (48 ≤ c.toNat ∧ c.toNat ≤ 57) ∨ (65 ≤ c.toNat ∧ c.toNat ≤ 122) ∨ c.toNat = 181) :
    Inner c := by
  have hne (d : Char) (hd : ¬ ((48 ≤ d.toNat ∧ d.toNat ≤ 57) ∨ (65 ≤ d.toNat ∧ d.toNat ≤ 122) ∨
      d.toNat = 181)) : c ≠ d := by
    rintro rfl
    exact hd h
  refine ⟨?_, ?_, hne ':' (by decide), hne '#' (by decide), ?_⟩
  · simp [isSpacing, hne ' ' (by decide), hne '\t' (by decide)]
  · simp [isBreak, hne '\r' (by decide), hne '\n' (by decide), hne '\u0085' (by decide),
      hne '\u2028' (by decide), hne '\u2029' (by decide)]
  · simp only [isTextChar, Bool.or_eq_true, Bool.and_eq_true, decide_eq_true_eq, beq_iff_eq]
    omega

theorem ne_of_isAlphanum {c d : Char} (hc : c.isAlphanum = true) (hd : d.isAlphanum = false) :
    c ≠ d := by
  rintro rfl
  exact Bool.noConfusion (hc.symm.trans hd)

theorem inner_of_isAlphanum {c : Char} (h : c.isAlphanum = true) : Inner c := by
  refine inner_of_code ?_
  have hcode {low high : UInt32} (h : (decide (low ≤ c.val) && decide (c.val ≤ high)) = true) :
      low.toNat ≤ c.toNat ∧ c.toNat ≤ high.toNat := by
    simpa [UInt32.le_iff_toNat_le] using h
  rcases Bool.or_eq_true_iff.mp h with hletter | hdigit
  · rcases Bool.or_eq_true_iff.mp hletter with hupper | hlower
    · obtain ⟨hlow, hhigh⟩ := of_decide_eq_true hupper
      have hbounds : 65 ≤ c.toNat ∧ c.toNat ≤ 90 :=
        ⟨UInt32.le_iff_toNat_le.mp hlow, UInt32.le_iff_toNat_le.mp hhigh⟩
      omega
    · have hbounds : 97 ≤ c.toNat ∧ c.toNat ≤ 122 := hcode hlower
      omega
  · exact .inl (hcode hdigit)

-- Words that stand on one line, with one blank between two of them.
structure Words (words : List (List Char)) : Prop where
  ne_nil : words ≠ []
  nonempty : ∀ word ∈ words, word ≠ []
  inner : ∀ word ∈ words, ∀ c ∈ word, Inner c

namespace Words

theorem tail {word next : List Char} {rest : List (List Char)}
    (h : Words (word :: next :: rest)) : Words (next :: rest) where
  ne_nil := List.cons_ne_nil _ _
  nonempty := (List.forall_mem_cons.mp h.nonempty).2
  inner := (List.forall_mem_cons.mp h.inner).2

-- Every line of words begins with a character of the first one.
theorem exists_first {words : List (List Char)} (h : Words words) :
    ∃ c rest, [' '].intercalate words = c :: rest ∧ Inner c := by
  obtain ⟨word, others, rfl⟩ := List.exists_cons_of_ne_nil h.ne_nil
  obtain ⟨c, letters, rfl⟩ := List.exists_cons_of_ne_nil (h.nonempty _ List.mem_cons_self)
  have hc : Inner c := h.inner _ List.mem_cons_self c List.mem_cons_self
  cases others with
  | nil => exact ⟨c, letters, List.intercalate_singleton, hc⟩
  | cons next others =>
    refine ⟨c, letters ++ ' ' :: [' '].intercalate (next :: others), ?_, hc⟩
    rw [List.intercalate_cons_cons]
    simp

theorem isTextChar_of_mem {words : List (List Char)} (h : Words words) :
    ∀ c ∈ [' '].intercalate words, isTextChar c = true := by
  intro c hc
  by_cases hblank : c = ' '
  · rw [hblank]
    rfl
  by_contra hbad
  refine Text.not_mem_intercalate (by simpa using hblank) (fun word hword hmem => ?_) hc
  exact hbad (h.inner word hword c hmem).allowed

theorem length_le {words : List (List Char)} (h : Words words) :
    words.length ≤ ([' '].intercalate words).length := by
  have hnonempty := h.nonempty
  clear h
  induction words with
  | nil => exact Nat.zero_le _
  | cons word rest ih =>
    obtain ⟨hword, hrest⟩ := List.forall_mem_cons.mp hnonempty
    have hone : 1 ≤ word.length := List.length_pos_iff.mpr hword
    have hlater := ih hrest
    cases rest with
    | nil => simpa using hone
    | cons next others =>
      rw [List.intercalate_cons_cons]
      simp only [List.length_append, List.length_cons] at hlater ⊢
      omega

end Words

theorem plainWord_append {word rest : List Char} (hword : ∀ c ∈ word, Inner c)
    (hrest : plainWord false rest = []) : plainWord false (word ++ rest) = word := by
  induction word with
  | nil => exact hrest
  | cons c word ih =>
    obtain ⟨hc, hword⟩ := List.forall_mem_cons.mp hword
    rw [List.cons_append, plainWord, ih hword]
    simp [endsWord, isStrayColon, endsPlain, hc.spacing, hc.notBreak, hc.colon]

theorem plainWord_of_endsWord {rest : List Char} (h : endsWord rest = true) :
    plainWord false rest = [] := by
  cases rest with
  | nil => rfl
  | cons c rest =>
    rw [plainWord, h]
    rfl

theorem plainWord_colon {rest : List Char} (h : endsWord rest = true) :
    plainWord false (':' :: rest) = [] := by
  simp [plainWord, endsPlain, h]

-- A word is no comment.
theorem head?_word {word : List Char} (hword : ∀ c ∈ word, Inner c) (hne : word ≠ [])
    (rest : List Char) : ((word ++ rest).head? == some '#') = false := by
  obtain ⟨first, others, rfl⟩ := List.exists_cons_of_ne_nil hne
  simpa using (hword first List.mem_cons_self).hash

theorem lineBreak?_inner {c : Char} (h : isBreak c = false) (mark : Mark) (rest : List Char) :
    Cursor.lineBreak? ⟨mark, c :: rest⟩ = none := by
  have hbreak := h
  simp only [isBreak, Bool.or_eq_false_iff, beq_eq_false_iff_ne] at h
  unfold Cursor.lineBreak?
  split <;> simp_all

namespace Scan

variable {α β : Type} {c d : Cursor} {a : α}

theorem run_bind {s : Scan α} (h : s.run c = .ok (a, d)) (f : α → Scan β) :
    (s >>= f).run c = (f a).run d := by
  rw [StateT.run_bind, h]
  rfl

theorem run_lineBreak_of_none (h : c.lineBreak? = none) : lineBreak.run c = .ok ([], c) := by
  rw [lineBreak, run_bind rfl, h]
  rfl

theorem run_skipWhile {p : Char → Bool} {text rest : List Char} {first : Char}
    (htext : ∀ d ∈ text, p d = true) (hfirst : p first = false)
    (hrest : c.rest = text ++ first :: rest) :
    (skipWhile p).run c = .ok ((), ⟨c.mark.right text.length, first :: rest⟩) := by
  have hspan : c.span p = (text, ⟨c.mark.right text.length, first :: rest⟩) := by
    rw [Cursor.span, hrest, Text.takeWhile_append_cons htext hfirst,
      Text.dropWhile_append_cons htext hfirst]
  exact run_bind (congrArg _ hspan) _

theorem run_skip_append (mark : Mark) (word rest : List Char) :
    (skip word.length).run ⟨mark, word ++ rest⟩ = .ok ((), ⟨mark.right word.length, rest⟩) := by
  change Except.ok ((), Cursor.skip _ _) = _
  simp [Cursor.skip]

end Scan

section

variable (activity : Activity) (start mark : Mark) (column fuel : Nat) (gap : Gap)

theorem readGap_inner {c : Char} (hc : Inner c) (rest : List Char) :
    (readGap activity start column (fuel + 1) gap).run ⟨mark, c :: rest⟩ =
      .ok (gap, ⟨mark, c :: rest⟩) := by
  rw [readGap, Scan.run_bind rfl]
  simp only [List.head?_cons, hc.spacing]
  rw [if_neg (by decide),
    Scan.run_bind (Scan.run_lineBreak_of_none (lineBreak?_inner hc.notBreak mark rest))]
  rfl

theorem readGap_blank {c : Char} (hc : Inner c) (rest : List Char) :
    (readGap activity start column (fuel + 2) .empty).run ⟨mark, ' ' :: c :: rest⟩ =
      .ok (⟨[' '], []⟩, ⟨mark.right 1, c :: rest⟩) := by
  have hspan : Cursor.span isSpacing ⟨mark, ' ' :: c :: rest⟩ =
      ([' '], ⟨mark.right 1, c :: rest⟩) := by
    have hblank : isSpacing ' ' = true := rfl
    simp [Cursor.span, hblank, hc.spacing]
  have htake : (Scan.takeWhile isSpacing).run ⟨mark, ' ' :: c :: rest⟩ =
      .ok ([' '], ⟨mark.right 1, c :: rest⟩) := congrArg _ hspan
  rw [readGap, Scan.run_bind rfl]
  simp only [List.head?_cons]
  rw [if_pos (by decide), if_pos (by decide), Scan.run_bind htake]
  exact readGap_inner activity start _ column fuel _ hc rest

theorem readGap_end :
    (readGap activity start column (fuel + 2) .empty).run ⟨mark, ['\n']⟩ =
      .ok (⟨[], ['\n']⟩, ⟨mark.down 1, []⟩) := rfl

variable {mark}

-- A word is taken up together with the gap before it. What is done next depends on
-- the gap behind it.
theorem readPlain_word {word : List Char} (hword : ∀ c ∈ word, Inner c) (hne : word ≠ [])
    (hmark : 0 < mark.column) {b : Char} (hb : isSpacing b = true ∨ isBreak b = true)
    (rest text : List Char) :
    (readPlain false start column (fuel + 1) text gap).run ⟨mark, word ++ b :: rest⟩ =
      (do
        let gap' ← readGap .plainScalar start column (rest.length + 2) .empty
        if (← Scan.mark).column < column then
          return (text ++ gap.fold ++ word, !gap'.breaks.isEmpty)
        readPlain false start column fuel (text ++ gap.fold ++ word) gap').run
        ⟨mark.right word.length, b :: rest⟩ := by
  have hindicator : Cursor.atDocumentIndicator ⟨mark, word ++ b :: rest⟩ = false := by
    simp [Cursor.atDocumentIndicator, Nat.ne_of_gt hmark]
  have hplain : plainWord false (word ++ b :: rest) = word :=
    plainWord_append hword (plainWord_of_endsWord (by simpa [endsWord] using hb))
  have hgoes : (!isSpacing b && !isBreak b) = false := by
    rcases hb with hb | hb <;> simp [hb]
  have hempty : word.isEmpty = false := by simpa using hne
  rw [readPlain, Scan.run_bind rfl]
  simp only [hindicator, head?_word hword hne, hplain, Bool.or_self]
  rw [if_neg (by decide), Scan.run_bind (Scan.run_skip_append mark word _), Scan.run_bind rfl]
  simp only [isStrayColon, hempty, Bool.false_and, Bool.not_false, Bool.true_and,
    decide_eq_true_eq]
  rw [if_neg (by decide), Scan.run_bind rfl]
  simp only [List.head?_cons, hgoes]
  rw [if_neg (by decide), Scan.run_bind rfl]
  rfl

theorem readPlain_last {word : List Char} (hword : ∀ c ∈ word, Inner c) (hne : word ≠ [])
    (hpos : 0 < column) (hmark : column ≤ mark.column) (text : List Char) :
    (readPlain false start column (fuel + 1) text gap).run ⟨mark, word ++ ['\n']⟩ =
      .ok ((text ++ gap.fold ++ word, true), ⟨(mark.right word.length).down 1, []⟩) := by
  have hgap := readGap_end .plainScalar start (mark.right word.length) column 0
  have hleft : Mark.column ((mark.right word.length).down 1) < column := hpos
  rw [readPlain_word start column fuel gap hword hne (by omega) (.inr rfl)]
  refine (Scan.run_bind hgap _).trans ?_
  rw [Scan.run_bind rfl, if_pos hleft]
  rfl

theorem readPlain_next {word : List Char} (hword : ∀ c ∈ word, Inner c) (hne : word ≠ [])
    (hpos : 0 < column) (hmark : column ≤ mark.column) {c : Char} (hc : Inner c)
    (rest text : List Char) :
    (readPlain false start column (fuel + 1) text gap).run ⟨mark, word ++ ' ' :: c :: rest⟩ =
      (readPlain false start column fuel (text ++ gap.fold ++ word) ⟨[' '], []⟩).run
        ⟨mark.right (word.length + 1), c :: rest⟩ := by
  have hgap := readGap_blank .plainScalar start (mark.right word.length) column (rest.length + 1)
    hc rest
  have hright : ¬ Mark.column (mark.right (word.length + 1)) < column := by
    change ¬ mark.column + (word.length + 1) < column
    omega
  rw [readPlain_word start column fuel gap hword hne (by omega) (.inl rfl)]
  refine (Scan.run_bind hgap _).trans ?_
  rw [Scan.run_bind rfl]
  exact congrArg (StateT.run · _) (if_neg hright)

-- Words are taken up one by one. The induction is on the words, and the last one
-- comes right before the end of the line, which is that of the text.
theorem readPlain_line {words : List (List Char)} (h : Words words) (hpos : 0 < column)
    (hmark : column ≤ mark.column) (text : List Char) :
    (readPlain false start column (fuel + words.length) text gap).run
        ⟨mark, [' '].intercalate words ++ ['\n']⟩ =
      .ok ((text ++ gap.fold ++ [' '].intercalate words, true),
        ⟨(mark.right ([' '].intercalate words).length).down 1, []⟩) := by
  induction words generalizing mark gap text with
  | nil => exact absurd rfl h.ne_nil
  | cons word rest ih =>
    have hword : word ≠ [] := h.nonempty word List.mem_cons_self
    have hinner : ∀ c ∈ word, Inner c := h.inner word List.mem_cons_self
    cases rest with
    | nil =>
      rw [List.intercalate_singleton]
      exact readPlain_last start column fuel gap hinner hword hpos hmark text
    | cons next others =>
      obtain ⟨c, more, hmore, hc⟩ := h.tail.exists_first
      have hright : column ≤ Mark.column (mark.right (word.length + 1)) :=
        Nat.le_add_right_of_le hmark
      have hlater := ih ⟨[' '], []⟩ h.tail hright (text ++ gap.fold ++ word)
      have hstep := readPlain_next start column (fuel + others.length + 1) gap hinner hword hpos
        hmark hc (more ++ ['\n']) text
      rw [hmore] at hlater
      rw [List.intercalate_cons_cons, hmore]
      simp only [List.append_assoc, List.cons_append] at hlater hstep ⊢
      refine hstep.trans (hlater.trans ?_)
      simp [Mark.right, Mark.down, Gap.fold, Nat.add_comm, Nat.add_left_comm]

theorem plainScalar_line {words : List (List Char)} (h : Words words) (hpos : 0 < column)
    (hmark : column ≤ mark.column) :
    (plainScalar false column).run ⟨mark, [' '].intercalate words ++ ['\n']⟩ =
      .ok (([' '].intercalate words, true),
        ⟨(mark.right ([' '].intercalate words).length).down 1, []⟩) := by
  obtain ⟨fuel, hfuel⟩ : ∃ fuel, ([' '].intercalate words ++ ['\n']).length + 1 =
      fuel + words.length := by
    have hlength := h.length_le
    refine ⟨([' '].intercalate words).length + 2 - words.length, ?_⟩
    rw [List.length_append, List.length_singleton]
    omega
  rw [plainScalar, Scan.run_bind rfl, Scan.run_bind rfl]
  simp only [hfuel]
  exact readPlain_line mark column fuel .empty h hpos hmark []

end

-- A key ends before its colon, and no line break is passed.
theorem plainScalar_key {word rest : List Char} (hword : ∀ c ∈ word, Inner c) (hne : word ≠ [])
    (hrest : endsWord rest = true) {mark : Mark}
    (hindicator : Cursor.atDocumentIndicator ⟨mark, word ++ ':' :: rest⟩ = false) (column : Nat) :
    (plainScalar false column).run ⟨mark, word ++ ':' :: rest⟩ =
      .ok ((word, false), ⟨mark.right word.length, ':' :: rest⟩) := by
  have hplain : plainWord false (word ++ ':' :: rest) = word :=
    plainWord_append hword (plainWord_colon hrest)
  have hempty : word.isEmpty = false := by simpa using hne
  rw [plainScalar, Scan.run_bind rfl, Scan.run_bind rfl, readPlain, Scan.run_bind rfl]
  simp only [hindicator, head?_word hword hne, hplain, Bool.or_self]
  rw [if_neg (by decide), Scan.run_bind (Scan.run_skip_append mark word _), Scan.run_bind rfl]
  simp only [isStrayColon, hempty, Bool.false_and]
  rw [if_neg (by decide), Scan.run_bind rfl]
  rfl

end SysExporter.Yaml
