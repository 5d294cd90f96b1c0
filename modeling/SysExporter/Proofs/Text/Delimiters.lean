import SysExporter.Text.Blank

namespace SysExporter.Text

-- A text up to the first character that ends it.
theorem takeWhile_append_cons {p : Char → Bool} {text rest : List Char} {c : Char}
    (htext : ∀ d ∈ text, p d = true) (hc : p c = false) :
    (text ++ c :: rest).takeWhile p = text := by
  rw [List.takeWhile_append_of_pos htext, List.takeWhile_cons_of_neg (by simp [hc]),
    List.append_nil]

theorem dropWhile_append_cons {p : Char → Bool} {text rest : List Char} {c : Char}
    (htext : ∀ d ∈ text, p d = true) (hc : p c = false) :
    (text ++ c :: rest).dropWhile p = c :: rest := by
  rw [List.dropWhile_append_of_pos htext, List.dropWhile_cons_of_neg (by simp [hc])]

-- What is cut off the end of a text reaches back to the last character that
-- stays, and not beyond it.
theorem dropWhile_reverse_append_cons {p : Char → Bool} (text rest : List Char) {c : Char}
    (hc : p c = false) :
    ((text ++ c :: rest).reverse.dropWhile p).reverse =
      text ++ c :: (rest.reverse.dropWhile p).reverse := by
  have hreverse : (text ++ c :: rest).reverse = rest.reverse ++ c :: text.reverse := by simp
  rw [hreverse, List.dropWhile_append, List.dropWhile_cons_of_neg (by simp [hc])]
  cases hrest : rest.reverse.dropWhile p with
  | nil => simp
  | cons d kept => simp

-- What stands between blanks is found by taking these off.
theorem dropWhile_append_of_neg {p : Char → Bool} {blanks text : List Char} (rest : List Char)
    (hblanks : ∀ c ∈ blanks, p c = true) (htext : ∀ c ∈ text, p c = false) (hne : text ≠ []) :
    (blanks ++ (text ++ rest)).dropWhile p = text ++ rest := by
  obtain ⟨first, others, rfl⟩ := List.exists_cons_of_ne_nil hne
  have hfirst : p first = false := htext first List.mem_cons_self
  rw [List.dropWhile_append_of_pos hblanks, List.cons_append,
    List.dropWhile_cons_of_neg (by simp [hfirst])]

theorem trim_padding {before text after : List Char} (hbefore : ∀ c ∈ before, isBlank c = true)
    (hafter : ∀ c ∈ after, isBlank c = true) (htext : ∀ c ∈ text, isBlank c = false)
    (hne : text ≠ []) : trim (before ++ text ++ after) = text := by
  have hreverse : (text ++ after).reverse = after.reverse ++ (text.reverse ++ []) := by simp
  rw [trim, trimStart, List.append_assoc, dropWhile_append_of_neg after hbefore htext hne, trimEnd,
    hreverse, dropWhile_append_of_neg [] (by simpa using hafter) (by simpa using htext)
    (by simpa using hne), List.append_nil, List.reverse_reverse]

theorem mem_takeWhile_isBlank (text : List Char) : ∀ c ∈ text.takeWhile isBlank, isBlank c = true :=
  List.all_eq_true.mp List.all_takeWhile

theorem exists_trimEnd_append (text : List Char) :
    ∃ after, text = trimEnd text ++ after ∧ ∀ c ∈ after, isBlank c = true := by
  refine ⟨(text.reverse.takeWhile isBlank).reverse, ?_, ?_⟩
  · rw [trimEnd, ← List.reverse_append, List.takeWhile_append_dropWhile, List.reverse_reverse]
  · exact fun c hc => mem_takeWhile_isBlank _ c (List.mem_reverse.mp hc)

theorem exists_padding (text : List Char) :
    ∃ before after, text = before ++ trim text ++ after ∧
      (∀ c ∈ before, isBlank c = true) ∧ (∀ c ∈ after, isBlank c = true) := by
  obtain ⟨after, htext, hafter⟩ := exists_trimEnd_append (trimStart text)
  refine ⟨text.takeWhile isBlank, after, ?_, mem_takeWhile_isBlank text, hafter⟩
  rw [trim, List.append_assoc, ← htext, trimStart, List.takeWhile_append_dropWhile]

theorem isBlank_eq_false_of_isDigit {c : Char} (h : c.isDigit = true) : isBlank c = false := by
  have hbounds : 48 ≤ c.toNat ∧ c.toNat ≤ 57 := by
    simpa [Char.isDigit, UInt32.le_iff_toNat_le] using h
  simp only [isBlank, Bool.or_eq_false_iff, Bool.and_eq_false_iff, decide_eq_false_iff_not,
    beq_eq_false_iff_ne]
  omega

theorem trimEnd_of_blanks {blanks : List Char} (h : ∀ c ∈ blanks, isBlank c = true) :
    trimEnd blanks = [] := by
  rw [trimEnd, ← List.append_nil blanks.reverse,
    List.dropWhile_append_of_pos fun c hc => h c (List.mem_reverse.mp hc)]
  rfl

theorem trim_append_cons {first last : Char} (hfirst : isBlank first = false)
    (hlast : isBlank last = false) (text rest : List Char) :
    trim (first :: (text ++ last :: rest)) = first :: (text ++ last :: trimEnd rest) := by
  rw [trim, trimStart, List.dropWhile_cons_of_neg (by simp [hfirst]), trimEnd,
    ← List.cons_append, dropWhile_reverse_append_cons _ _ hlast]
  rfl

-- Blanks inside a text are kept, whatever stands around it.
theorem trim_padding_cons {before after : List Char} {first last : Char}
    (hbefore : ∀ c ∈ before, isBlank c = true) (hafter : ∀ c ∈ after, isBlank c = true)
    (hfirst : isBlank first = false) (hlast : isBlank last = false) (middle : List Char) :
    trim (before ++ first :: (middle ++ [last]) ++ after) = first :: (middle ++ [last]) := by
  have hleading (text : List Char) : trim (before ++ text) = trim text := by
    rw [trim, trimStart, List.dropWhile_append_of_pos hbefore]
    rfl
  have hassoc : before ++ first :: (middle ++ [last]) ++ after =
      before ++ first :: (middle ++ last :: after) := by simp
  rw [hassoc, hleading, trim_append_cons hfirst hlast, trimEnd_of_blanks hafter]

theorem not_mem_intercalate {c : Char} {separator : List Char} {texts : List (List Char)}
    (hseparator : c ∉ separator) (h : ∀ text ∈ texts, c ∉ text) :
    c ∉ separator.intercalate texts := by
  induction texts with
  | nil => exact List.not_mem_nil
  | cons text rest ih =>
    have htext := h text List.mem_cons_self
    have hrest := ih fun other hother => h other (List.mem_cons_of_mem _ hother)
    cases rest with
    | nil => simpa using htext
    | cons next rest =>
      rw [List.intercalate_cons_cons]
      simp [htext, hseparator, hrest]

end SysExporter.Text
