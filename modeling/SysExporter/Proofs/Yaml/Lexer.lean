import SysExporter.Proofs.Yaml.PlainScalar

namespace SysExporter.Yaml

-- A character that a token begins with. Blanks, comments and the ends of lines stand
-- between tokens, and a byte order mark before the first one.
structure Visible (c : Char) : Prop where
  spacing : isSpacing c = false
  notBreak : isBreak c = false
  hash : c ≠ '#'
  orderMark : c ≠ '\uFEFF'

theorem visible_of_isAlphanum {c : Char} (h : c.isAlphanum = true) : Visible c where
  spacing := (inner_of_isAlphanum h).spacing
  notBreak := (inner_of_isAlphanum h).notBreak
  hash := (inner_of_isAlphanum h).hash
  orderMark := ne_of_isAlphanum h rfl

namespace Lex

section

variable {α β : Type} {l m : Lexer} {a : α}

theorem run_bind {s : Lex α} (h : s.run.run l = (.ok a, m)) (f : α → Lex β) :
    (s >>= f).run.run l = (f a).run.run m := by
  rw [ExceptT.run_bind, StateT.run_bind, h]
  rfl

theorem run_bind_congr {s t : Lex α} (h : s.run.run l = t.run.run l) (f : α → Lex β) :
    (s >>= f).run.run l = (t >>= f).run.run l := by
  rw [ExceptT.run_bind, StateT.run_bind, h]
  rfl

theorem run_get : (get : Lex Lexer).run.run l = (.ok l, l) := rfl

theorem run_mark : mark.run.run l = (.ok l.cursor.mark, l) := rfl

theorem run_allowKey (isAllowed : Bool) :
    (allowKey isAllowed).run.run l = (.ok (), { l with keyAllowed := isAllowed }) := rfl

theorem run_push (token : Token) :
    (push token).run.run l = (.ok (), { l with tokens := l.tokens.push token }) := rfl

theorem run_scan {s : Scan α} {cursor : Cursor} (h : s.run l.cursor = .ok (a, cursor)) :
    (scan s).run.run l = (.ok a, { l with cursor := cursor }) := by
  rw [scan, run_bind run_get, h]
  rfl

end

section

variable {l m : Lexer} {c : Char} {rest : List Char}

theorem skipBlanks_visible (hc : Visible c) (blanks fuel : Nat)
    (hrest : l.cursor.rest = List.replicate blanks ' ' ++ c :: rest) :
    (skipBlanks (fuel + 1)).run.run l =
      (.ok (), { l with cursor := ⟨l.cursor.mark.right blanks, c :: rest⟩ }) := by
  have hspace : c ≠ ' ' := fun h => absurd hc.spacing (by rw [h]; decide)
  have htab : c ≠ '\t' := fun h => absurd hc.spacing (by rw [h]; decide)
  have hmark : (l.cursor.rest.head? == some '\uFEFF') = false := by
    rw [hrest]
    cases blanks with
    | zero => simpa using hc.orderMark
    | succ blanks => rfl
  have hcomment : (some c == some '#') = false := by simpa using hc.hash
  have hskip := Scan.run_skipWhile
    (p := fun c => c == ' ' || ((l.inFlow || !l.keyAllowed) && c == '\t'))
    (fun d hd => by simp [List.eq_of_mem_replicate hd]) (by simp [hspace, htab]) hrest
  rw [List.length_replicate] at hskip
  rw [skipBlanks, run_bind run_get]
  simp only [hmark, Bool.and_false, Bool.false_eq_true, if_false]
  rw [run_bind (run_scan hskip), run_bind (run_scan rfl)]
  simp only [List.head?_cons, hcomment, Bool.false_eq_true, if_false]
  rw [run_bind (run_scan (Scan.run_lineBreak_of_none (lineBreak?_inner hc.notBreak _ rest)))]
  rfl

-- A key may begin on the next line.
theorem skipBlanks_line (hc : Visible c) (blanks fuel : Nat) (hflow : l.inFlow = false)
    (hrest : l.cursor.rest = '\n' :: (List.replicate blanks ' ' ++ c :: rest)) :
    (skipBlanks (fuel + 2)).run.run l =
      (.ok (), { l with
        cursor := ⟨(l.cursor.mark.down 1).right blanks, c :: rest⟩, keyAllowed := true }) := by
  have hmark : (some '\n' == some '\uFEFF') = false := rfl
  have hcomment : (some '\n' == some '#') = false := rfl
  have hskip := Scan.run_skipWhile
    (p := fun c => c == ' ' || ((l.inFlow || !l.keyAllowed) && c == '\t'))
    (List.forall_mem_nil _) (by simp) hrest
  rw [skipBlanks, run_bind run_get]
  simp only [hrest, List.head?_cons, hmark, Bool.and_false, Bool.false_eq_true, if_false]
  rw [run_bind (run_scan hskip), run_bind (run_scan rfl)]
  simp only [List.head?_cons, hcomment, hflow, Bool.not_false, Bool.false_eq_true, if_false,
    if_true]
  refine (run_bind (run_scan rfl) _).trans ?_
  dsimp only
  rw [run_bind (run_allowKey true)]
  exact skipBlanks_visible hc blanks fuel rfl

theorem isIndicator_of_isAlphanum {c : Char} (h : c.isAlphanum = true) : isIndicator c = false := by
  have hnone : ∀ d ∈ "-?:,[]\x7b\x7d#&*!|>'\"%@`".toList, (!d.isAlphanum) = true :=
    List.all_eq_true.mp rfl
  rw [isIndicator, List.contains_eq_mem, decide_eq_false_iff_not]
  intro hmem
  simpa [h] using hnone c hmem

theorem lexToken_plain (hspacing : isSpacing c = false) (hindicator : isIndicator c = false)
    (hinside : l.cursor.atDocumentIndicator = false) (rest : List Char) :
    (lexToken c rest).run.run l = lexPlain.run.run l := by
  have hdirective : (c == '%') = false := by
    simpa using fun h => absurd hindicator (by rw [h]; decide)
  have hplain : (lexPlainOrFail c rest).run.run l = lexPlain.run.run l := by
    rw [lexPlainOrFail, run_bind run_get]
    simp [hspacing, hindicator]
  rw [lexToken, run_bind run_get]
  simp only [hdirective, hinside, Bool.and_false, Bool.false_eq_true, if_false]
  split <;> first | exact hplain | exact absurd hindicator (by decide)

theorem atDocumentIndicator_of_isAlphanum (hc : c.isAlphanum = true) {cursor : Cursor}
    (hrest : cursor.rest = c :: rest) : cursor.atDocumentIndicator = false := by
  have hhyphen : c ≠ '-' := ne_of_isAlphanum hc rfl
  have hpoint : c ≠ '.' := ne_of_isAlphanum hc rfl
  simp [Cursor.atDocumentIndicator, hrest, hhyphen, hpoint]

theorem lexToken_alphanum (hc : c.isAlphanum = true) (hrest : l.cursor.rest = c :: rest) :
    (lexToken c rest).run.run l = lexPlain.run.run l := by
  have hinside := atDocumentIndicator_of_isAlphanum hc hrest
  exact lexToken_plain (visible_of_isAlphanum hc).spacing (isIndicator_of_isAlphanum hc) hinside _

theorem lexToken_colon (hrest : endsWord rest = true)
    (hinside : l.cursor.atDocumentIndicator = false) :
    (lexToken ':' rest).run.run l = lexValue.run.run l := by
  have hdirective : (':' == '%') = false := rfl
  rw [lexToken, run_bind run_get]
  simp only [hdirective, hinside, hrest, Bool.and_false, Bool.or_true, Bool.false_eq_true,
    if_false, if_true]

-- The column of the innermost block collection decides how far left the lines of a
-- scalar may begin.
theorem run_lexPlain {text : List Char} {passedBreak : Bool} {cursor : Cursor}
    (hsave : saveCandidate.run.run l = (.ok (), m))
    (hscalar : (plainScalar m.inFlow (m.indentation.elim 0 (· + 1))).run m.cursor =
      .ok ((text, passedBreak), cursor)) :
    lexPlain.run.run l = (.ok (), { m with
      cursor := cursor, keyAllowed := passedBreak,
      tokens := m.tokens.push ⟨.scalar text .plain, m.cursor.mark, cursor.mark⟩ }) := by
  have hscan {column : Nat} (h : (plainScalar m.inFlow column).run m.cursor =
      .ok ((text, passedBreak), cursor)) :
      (scan (plainScalar m.inFlow column)).run.run { m with keyAllowed := false } =
        (.ok (text, passedBreak), { m with cursor := cursor, keyAllowed := false }) := run_scan h
  rw [lexPlain, run_bind hsave, run_bind (run_allowKey false), run_bind run_get]
  dsimp only
  rw [run_bind run_mark]
  obtain ⟨now, tokens, indentation, outer, keyAllowed, candidate, outerCandidates⟩ := m
  cases indentation
  all_goals
    refine (run_bind (hscan hscalar) _).trans ?_
    dsimp only
    rw [run_bind run_mark, run_bind (run_push _)]
    cases passedBreak <;> rfl

-- A candidate is kept to the end of its line.
theorem dropStaleCandidates_kept (hflow : l.outerCandidates = [])
    (h : ∀ candidate ∈ l.candidate, candidate.isStale l.cursor.mark = false) :
    dropStaleCandidates.run.run l = (.ok (), l) := by
  obtain ⟨cursor, tokens, indentation, outer, keyAllowed, candidate, outerCandidates⟩ := l
  subst hflow
  cases candidate with
  | none => rfl
  | some candidate =>
    have hkept : (dropIfStale cursor.mark (some candidate)) = return some candidate := by
      rw [dropIfStale, if_neg (by simp [h candidate rfl])]
    rw [dropStaleCandidates, run_bind run_mark, run_bind run_get]
    refine (run_bind rfl _).trans ?_
    rw [run_bind run_get, hkept]
    rfl

-- A block collection left of the column goes on.
theorem dedent_of_isLeftOf {column : Nat} (h : l.isLeftOf column = true) :
    (dedent (some column)).run.run l = (.ok (), l) := by
  rw [dedent, run_bind run_get]
  split
  · cases houter : l.outerIndentations with
    | nil => rfl
    | cons outer rest =>
      rw [dedentAll, run_bind run_get]
      cases hindentation : l.indentation with
      | none => rfl
      | some indentation =>
        have hlt : indentation < column := by simpa [Lexer.isLeftOf, hindentation] using h
        have hstays : (some column).all (· < indentation) = false := by
          simpa using Nat.le_of_lt hlt
        simp only [hstays, Bool.false_eq_true, if_false]
        rfl
  · rfl

-- What stands right of the innermost collection is still right of it further on.
theorem isLeftOf_of_le {mark : Mark} {column : Nat} {indentation : Option Nat}
    (hindentation : l.indentation = indentation)
    (hleft : ∀ column ∈ indentation, column < mark.column) (h : mark.column ≤ column) :
    l.isLeftOf column = true := by
  rw [Lexer.isLeftOf, hindentation]
  cases indentation with
  | none => rfl
  | some left => simpa using Nat.lt_of_lt_of_le (hleft left rfl) h

-- What a step comes to once the gap before the token is behind.
theorem step_of_skipped
    (hskip : (skipBlanks (l.cursor.rest.length + 1)).run.run l = (.ok (), m))
    (hkept : dropStaleCandidates.run.run m = (.ok (), m))
    (hleft : m.isLeftOf m.cursor.mark.column = true) (hrest : m.cursor.rest = c :: rest) :
    step.run.run l =
      (do lexToken c rest; dropStaleCandidates; return none : Lex (Option Mark)).run.run m := by
  rw [step, run_bind run_get, run_bind hskip, run_bind hkept, run_bind run_mark,
    run_bind (dedent_of_isLeftOf hleft), run_bind run_get, hrest]

-- A scalar without quotes behind a colon and a blank.
theorem step_plain (hc : c.isAlphanum = true) {mark : Mark} {column : Nat}
    (hcolumn : column < (mark.right 1).column) (rest : List Char) (tokens : Array Token)
    (outer : List (Option Nat)) :
    step.run.run ⟨⟨mark, ' ' :: c :: rest⟩, tokens, some column, outer, false, none, []⟩ =
      (do lexPlain; dropStaleCandidates; return none : Lex (Option Mark)).run.run
        ⟨⟨mark.right 1, c :: rest⟩, tokens, some column, outer, false, none, []⟩ := by
  have hleft : ∀ left ∈ some column, left < (mark.right 1).column := by simpa using hcolumn
  rw [step_of_skipped (skipBlanks_visible (visible_of_isAlphanum hc) 1 _ rfl) rfl
    (isLeftOf_of_le rfl hleft (Nat.le_refl _)) rfl]
  exact run_bind_congr (lexToken_alphanum hc rfl) _

end

-- A word in letters and digits, short enough to be a key.
structure KeyWord (word : List Char) : Prop where
  ne_nil : word ≠ []
  alphanum : ∀ c ∈ word, c.isAlphanum = true
  length_le : word.length ≤ 1024

theorem KeyWord.inner {word : List Char} (h : KeyWord word) : ∀ c ∈ word, Inner c :=
  fun c hc => inner_of_isAlphanum (h.alphanum c hc)

section

variable {word rest : List Char} {mark : Mark} {l : Lexer} {tokens : Array Token}
  {indentation : Option Nat} {outer : List (Option Nat)}

theorem run_insertAt {l : Lexer} {before after : Array Token} (htokens : l.tokens = before ++ after)
    (symbol : Symbol) (mark : Mark) :
    (insertAt before.size symbol mark).run.run l =
      (.ok (), { l with tokens := before ++ #[⟨symbol, mark, mark⟩] ++ after }) := by
  change (Except.ok (), _) = _
  simp [htokens, Array.extract_append]

theorem run_indent {l : Lexer} {column : Nat} (hflow : l.inFlow = false)
    (hleft : l.isLeftOf column = true) (number : Nat) (symbol : Symbol) (mark : Mark) :
    (indent column (some number) symbol mark).run.run l =
      (insertAt number symbol mark).run.run { l with
        indentation := some column
        outerIndentations := l.indentation :: l.outerIndentations } := by
  rw [indent, run_bind run_get, hflow, hleft]
  rfl

-- The colon makes a key of the scalar before it, and a mapping begins with the key.
theorem lexValue_key (tokens : Array Token) (scalar : Token) (outer : List (Option Nat))
    (now : Mark) (isRequired : Bool) (hleft : ∀ column ∈ indentation, column < mark.column) :
    lexValue.run.run ⟨⟨now, ':' :: rest⟩, tokens.push scalar, indentation, outer, false,
        some ⟨isRequired, tokens.size, mark⟩, []⟩ =
      (.ok (), ⟨⟨now.right 1, rest⟩,
        tokens ++ #[⟨.blockMappingStart, mark, mark⟩, ⟨.key, mark, mark⟩, scalar,
          ⟨.value, now, now.right 1⟩],
        some mark.column, indentation :: outer, false, none, []⟩) := by
  have hkey : (insertAt tokens.size .key mark).run.run ⟨⟨now, ':' :: rest⟩, tokens.push scalar,
        indentation, outer, false, some ⟨isRequired, tokens.size, mark⟩, []⟩ =
      (.ok (), ⟨⟨now, ':' :: rest⟩, tokens ++ #[⟨.key, mark, mark⟩] ++ #[scalar], indentation,
        outer, false, some ⟨isRequired, tokens.size, mark⟩, []⟩) :=
    run_insertAt Array.push_eq_append .key mark
  have hindent : (indent mark.column (some tokens.size) .blockMappingStart mark).run.run
      ⟨⟨now, ':' :: rest⟩, tokens ++ #[⟨.key, mark, mark⟩] ++ #[scalar], indentation, outer, false,
        some ⟨isRequired, tokens.size, mark⟩, []⟩ =
      (.ok (), ⟨⟨now, ':' :: rest⟩,
        tokens ++ #[⟨.blockMappingStart, mark, mark⟩] ++ (#[⟨.key, mark, mark⟩] ++ #[scalar]),
        some mark.column, indentation :: outer, false, some ⟨isRequired, tokens.size, mark⟩, []⟩) :=
    (run_indent rfl (isLeftOf_of_le rfl hleft (Nat.le_refl _)) _ _ _).trans
      (run_insertAt Array.append_assoc .blockMappingStart mark)
  rw [lexValue, run_bind run_get]
  refine (run_bind hkey _).trans ((run_bind hindent _).trans ?_)
  change (Except.ok (), _) = _
  simp [Cursor.skip]

-- A scalar that may turn out to be a key is remembered.
theorem step_key (hword : KeyWord word) (hrest : endsWord rest = true)
    (hleft : ∀ column ∈ indentation, column < mark.column)
    (hskip : (skipBlanks (l.cursor.rest.length + 1)).run.run l =
      (.ok (), ⟨⟨mark, word ++ ':' :: rest⟩, tokens, indentation, outer, true, none, []⟩)) :
    step.run.run l =
      (.ok none, ⟨⟨mark.right word.length, ':' :: rest⟩,
        tokens.push ⟨.scalar word .plain, mark, mark.right word.length⟩, indentation, outer,
        false, some ⟨indentation == some mark.column, tokens.size, mark⟩, []⟩) := by
  obtain ⟨c, letters, hletters⟩ := List.exists_cons_of_ne_nil hword.ne_nil
  have hc : c.isAlphanum = true := hword.alphanum c (by simp [hletters])
  have hsave : saveCandidate.run.run
      ⟨⟨mark, word ++ ':' :: rest⟩, tokens, indentation, outer, true, none, []⟩ =
      (.ok (), ⟨⟨mark, word ++ ':' :: rest⟩, tokens, indentation, outer, true,
        some ⟨indentation == some mark.column, tokens.size, mark⟩, []⟩) := rfl
  have hfirst : word ++ ':' :: rest = c :: (letters ++ ':' :: rest) := by simp [hletters]
  have hinside : Cursor.atDocumentIndicator ⟨mark, word ++ ':' :: rest⟩ = false :=
    atDocumentIndicator_of_isAlphanum hc hfirst
  have hplain := run_lexPlain hsave (plainScalar_key hword.inner hword.ne_nil hrest hinside _)
  have hlength := hword.length_le
  rw [step_of_skipped hskip rfl (isLeftOf_of_le rfl hleft (Nat.le_refl _)) hfirst,
    run_bind_congr (lexToken_alphanum hc hfirst), run_bind hplain,
     run_bind (dropStaleCandidates_kept rfl ?_)]
  · rfl
  · simpa [KeyCandidate.isStale, Mark.right] using hlength

theorem step_value (word : Token) (now : Mark) (isRequired : Bool) (hrest : endsWord rest = true)
    (hleft : ∀ column ∈ indentation, column < mark.column) (hline : mark.line = now.line)
    (hlength : now.index ≤ mark.index + 1024) (hcolumn : mark.column < now.column) :
    step.run.run ⟨⟨now, ':' :: rest⟩, tokens.push word, indentation, outer, false,
        some ⟨isRequired, tokens.size, mark⟩, []⟩ =
      (.ok none, ⟨⟨now.right 1, rest⟩,
        tokens ++ #[⟨.blockMappingStart, mark, mark⟩, ⟨.key, mark, mark⟩, word,
          ⟨.value, now, now.right 1⟩],
        some mark.column, indentation :: outer, false, none, []⟩) := by
  have hcolon : Visible ':' := ⟨rfl, rfl, by decide, by decide⟩
  have hkept : ∀ candidate ∈ some (KeyCandidate.mk isRequired tokens.size mark),
      candidate.isStale now = false := by
    simpa [KeyCandidate.isStale, hline] using hlength
  have hinside : Cursor.atDocumentIndicator ⟨now, ':' :: rest⟩ = false := by
    simp [Cursor.atDocumentIndicator]
  rw [step_of_skipped (skipBlanks_visible hcolon 0 _ rfl) (dropStaleCandidates_kept rfl hkept)
      (isLeftOf_of_le rfl hleft (Nat.le_of_lt hcolumn)) rfl,
    run_bind_congr (lexToken_colon hrest hinside)]
  refine (run_bind (lexValue_key tokens word outer now isRequired hleft) _).trans ?_
  rfl

-- A key takes two steps: its word, and the colon that makes it a key.
theorem readAll_key (l : Lexer) (hword : KeyWord word) (hrest : endsWord rest = true)
    (hleft : ∀ column ∈ indentation, column < mark.column)
    (hskip : (skipBlanks (l.cursor.rest.length + 1)).run.run l =
      (.ok (), ⟨⟨mark, word ++ ':' :: rest⟩, tokens, indentation, outer, true, none, []⟩))
    (fuel : Nat) :
    readAll (fuel + 2) l =
      readAll fuel ⟨⟨mark.right (word.length + 1), rest⟩,
        tokens ++ #[⟨.blockMappingStart, mark, mark⟩, ⟨.key, mark, mark⟩,
          ⟨.scalar word .plain, mark, mark.right word.length⟩,
          ⟨.value, mark.right word.length, mark.right (word.length + 1)⟩],
        some mark.column, indentation :: outer, false, none, []⟩ := by
  have hlength : mark.index + word.length ≤ mark.index + 1024 :=
    Nat.add_le_add_left hword.length_le _
  have hcolumn : mark.column < mark.column + word.length :=
    Nat.lt_add_of_pos_right (List.length_pos_iff.mpr hword.ne_nil)
  rw [readAll, step_key hword hrest hleft hskip]
  dsimp only
  rw [readAll, step_value _ (mark.right word.length) _ hrest hleft rfl hlength hcolumn]
  rfl

end

-- The value of a key, at the end of its line and of the text.
theorem lexPlain_line {mark : Mark} {words : List (List Char)} (h : Words words) {column : Nat}
    (hmark : column < mark.column) (tokens : Array Token) (outer : List (Option Nat)) :
    let stop := (mark.right ([' '].intercalate words).length).down 1
    lexPlain.run.run
        ⟨⟨mark, [' '].intercalate words ++ ['\n']⟩, tokens, some column, outer, false, none, []⟩ =
      (.ok (), ⟨⟨stop, []⟩, tokens.push ⟨.scalar ([' '].intercalate words) .plain, mark, stop⟩,
        some column, outer, true, none, []⟩) := by
  intro stop
  have hsave : saveCandidate.run.run
      ⟨⟨mark, [' '].intercalate words ++ ['\n']⟩, tokens, some column, outer, false, none, []⟩ =
      (.ok (), ⟨⟨mark, [' '].intercalate words ++ ['\n']⟩, tokens, some column, outer, false,
        none, []⟩) := rfl
  exact run_lexPlain hsave (plainScalar_line (column + 1) h (Nat.succ_pos _) hmark)

end Lex

theorem badOffset?_eq_none {text : List Char} (h : ∀ c ∈ text, isTextChar c = true)
    (offset : Nat) : badOffset? offset text = none := by
  induction text generalizing offset with
  | nil => rfl
  | cons c rest ih =>
    obtain ⟨hc, hrest⟩ := List.forall_mem_cons.mp h
    rw [badOffset?, if_pos hc, ih hrest]

end SysExporter.Yaml
