import Mathlib.Data.List.TakeWhile
import SysExporter.CommandLine.Arguments
import SysExporter.Proofs.Text.Delimiters

namespace SysExporter.Config

open SysExporter.Text

-- A name is a letter or an underscore, and then letters, digits and underscores.
def IsName : List Char → Prop
  | [] => False
  | first :: rest =>
    (first.isAlpha = true ∨ first = '_') ∧ ∀ c ∈ rest, c.isAlphanum = true ∨ c = '_'

-- What follows the name: "}" or ":-DEFAULT}".
def closing (default : Option (List Char)) : List Char :=
  (default.elim [] fun text => ':' :: '-' :: text) ++ [closeBrace]

namespace Placeholder

-- A default is any text that does not close the placeholder.
structure Proper (p : Placeholder) : Prop where
  name : IsName p.name
  default : ∀ text, p.default = some text → closeBrace ∉ text

def written (p : Placeholder) : List Char :=
  '$' :: openBrace :: p.name ++ closing p.default

end Placeholder

-- A pass from the left: wherever a placeholder begins it is taken as a whole, and
-- the pass goes on behind it. Any other character stands for itself.
inductive Scan : List Char → List Piece → Prop where
  | ended : Scan [] []
  | hole {p : Placeholder} {after : List Char} {pieces : List Piece} (proper : p.Proper)
      (later : Scan after pieces) : Scan (p.written ++ after) (.hole p :: pieces)
  | plain {c : Char} {rest : List Char} {pieces : List Piece}
      (none : ∀ p : Placeholder, p.Proper → ¬p.written <+: c :: rest)
      (later : Scan rest pieces) : Scan (c :: rest) (.plain c :: pieces)

theorem isNameStart_iff (c : Char) : isNameStart c = true ↔ c.isAlpha = true ∨ c = '_' := by
  have hupper : (decide ('A' ≤ c) && decide (c ≤ 'Z')) = c.isUpper :=
    (Bool.decide_and ('A' ≤ c) (c ≤ 'Z')).symm
  have hstart : isNameStart c =
      (c.isLower || (decide ('A' ≤ c) && decide (c ≤ 'Z')) || c == '_') := rfl
  have halpha : c.isAlpha = (c.isUpper || c.isLower) := rfl
  rw [hstart, hupper, halpha, Bool.or_comm c.isLower, Bool.or_eq_true, beq_iff_eq]

theorem isNameChar_iff (c : Char) : isNameChar c = true ↔ c.isAlphanum = true ∨ c = '_' := by
  have hchar : isNameChar c = (isNameStart c || c.isDigit) := rfl
  have halphanum : c.isAlphanum = (c.isAlpha || c.isDigit) := rfl
  rw [hchar, halphanum, Bool.or_eq_true, Bool.or_eq_true, isNameStart_iff]
  exact or_right_comm

-- No name goes on into what closes a placeholder.
theorem closing_append (default : Option (List Char)) (after : List Char) :
    ∃ c rest, closing default ++ after = c :: rest ∧ isNameChar c = false := by
  cases default with
  | none => exact ⟨closeBrace, after, rfl, by decide⟩
  | some text => exact ⟨':', '-' :: text ++ [closeBrace] ++ after, rfl, by decide⟩

theorem readDefault_closing {default : Option (List Char)}
    (h : ∀ text, default = some text → closeBrace ∉ text) (after : List Char) :
    readDefault (closing default ++ after) = some (default, after) := by
  cases default with
  | none => rfl
  | some text =>
    have htext : ∀ c ∈ text, decide (c ≠ closeBrace) = true := by
      intro c hc
      exact decide_eq_true fun heq => h text rfl (heq ▸ hc)
    have hend : decide (closeBrace ≠ closeBrace) = false := by decide
    have hclosing : closing (some text) ++ after =
        ':' :: '-' :: (text ++ closeBrace :: after) := by
      simp [closing, closeBrace]
    simp only [hclosing, readDefault, dropWhile_append_cons htext hend,
      takeWhile_append_cons htext hend]

theorem closing_of_readDefault {text after : List Char} {default : Option (List Char)}
    (h : readDefault text = some (default, after)) :
    (∀ value, default = some value → closeBrace ∉ value) ∧ text = closing default ++ after := by
  unfold readDefault at h
  split at h
  · rename_i rest
    split at h
    · cases h
    · rename_i c tail hdrop
      cases h
      have hc : c = closeBrace := by
        have hhead := List.head?_dropWhile_not (· ≠ closeBrace) rest
        rw [hdrop] at hhead
        simpa using hhead
      have hvalue : closeBrace ∉ rest.takeWhile (· ≠ closeBrace) := by
        intro hmem
        have hne := List.mem_takeWhile_imp hmem
        simp at hne
      have hsplit := List.takeWhile_append_dropWhile (p := (· ≠ closeBrace)) (l := rest)
      rw [hdrop, hc] at hsplit
      refine ⟨fun value heq => Option.some.inj heq ▸ hvalue, ?_⟩
      simp only [closing, Option.elim_some, List.cons_append, List.append_assoc]
      exact congrArg (':' :: '-' :: ·) hsplit.symm
  · split at h
    · rename_i hc
      cases h
      exact ⟨by simp, congrArg (· :: after) hc⟩
    · cases h
  · cases h

-- A placeholder is read exactly where one is written.
theorem readPlaceholder_eq_some_iff {text after : List Char} {p : Placeholder} :
    readPlaceholder text = some (p, after) ↔ p.Proper ∧ text = p.written ++ after := by
  constructor
  · intro h
    unfold readPlaceholder at h
    split at h
    · rename_i brace first rest
      split at h
      · rename_i hstart
        obtain ⟨hbrace, hfirst⟩ := Bool.and_eq_true_iff.mp hstart
        obtain ⟨⟨default, tail⟩, hread, heq⟩ := Option.map_eq_some_iff.mp h
        obtain ⟨hdefault, hclosing⟩ := closing_of_readDefault hread
        cases heq
        refine ⟨⟨⟨(isNameStart_iff first).mp hfirst, fun c hc => ?_⟩, hdefault⟩, ?_⟩
        · exact (isNameChar_iff c).mp (List.mem_takeWhile_imp hc)
        · have hsplit := List.takeWhile_append_dropWhile (p := isNameChar) (l := rest)
          rw [hclosing] at hsplit
          simp only [Placeholder.written, List.cons_append, List.append_assoc]
          rw [hsplit, of_decide_eq_true hbrace]
      · cases h
    · cases h
  · rintro ⟨⟨hname, hdefault⟩, rfl⟩
    obtain ⟨name, default⟩ := p
    cases name with
    | nil => exact absurd hname id
    | cons first rest =>
      obtain ⟨hfirst, hrest⟩ := hname
      obtain ⟨c, tail, hclosing, hc⟩ := closing_append default after
      have hread := readDefault_closing hdefault after
      have hstart : isNameStart first = true := (isNameStart_iff first).mpr hfirst
      have hchars : ∀ d ∈ rest, isNameChar d = true :=
        fun d hd => (isNameChar_iff d).mpr (hrest d hd)
      have htext : Placeholder.written ⟨first :: rest, default⟩ ++ after =
          '$' :: openBrace :: first :: (rest ++ c :: tail) := by
        simp only [Placeholder.written, List.cons_append, List.append_assoc, hclosing]
      rw [hclosing] at hread
      simp only [htext, readPlaceholder, hstart, dropWhile_append_cons hchars hc,
        takeWhile_append_cons hchars hc, hread]
      rfl

theorem readPlaceholder_eq_none_iff {text : List Char} :
    readPlaceholder text = none ↔ ∀ p : Placeholder, p.Proper → ¬p.written <+: text := by
  constructor
  · rintro h p proper ⟨after, rfl⟩
    rw [readPlaceholder_eq_some_iff.mpr ⟨proper, rfl⟩] at h
    cases h
  · intro h
    cases hread : readPlaceholder text with
    | none => rfl
    | some found =>
      obtain ⟨proper, heq⟩ := readPlaceholder_eq_some_iff.mp hread
      exact absurd ⟨found.2, heq.symm⟩ (h found.1 proper)

theorem pieces_of_none {c : Char} {rest : List Char} (h : readPlaceholder (c :: rest) = none) :
    pieces (c :: rest) = .plain c :: pieces rest := by
  rw [pieces]
  split <;> simp_all

theorem pieces_of_some {text after : List Char} {p : Placeholder}
    (h : readPlaceholder text = some (p, after)) : pieces text = .hole p :: pieces after := by
  cases text with
  | nil => cases h
  | cons c rest =>
    rw [pieces]
    split <;> simp_all

theorem scan_pieces (text : List Char) : Scan text (pieces text) := by
  fun_induction pieces text with
  | case1 => exact .ended
  | case2 c rest p after hread ih =>
    obtain ⟨proper, heq⟩ := readPlaceholder_eq_some_iff.mp hread
    rw [heq]
    exact .hole proper ih
  | case3 c rest hread ih => exact .plain (readPlaceholder_eq_none_iff.mp hread) ih

-- There is only one such pass.
theorem Scan.eq_pieces {text : List Char} {parts : List Piece} (h : Scan text parts) :
    parts = pieces text := by
  induction h with
  | ended => rw [pieces]
  | hole proper _ ih => rw [pieces_of_some (readPlaceholder_eq_some_iff.mpr ⟨proper, rfl⟩), ih]
  | plain none _ ih => rw [pieces_of_none (readPlaceholder_eq_none_iff.mpr none), ih]

-- A placeholder without a default whose variable has no value.
def Placeholder.Missing (env : Environment) (p : Placeholder) : Prop :=
  env (.ofList p.name) = none ∧ p.default = none

-- What stands in the place of a piece: the value of the variable if there is one,
-- even an empty one, and else the default.
def Piece.filled (env : Environment) : Piece → List Char
  | .plain c => [c]
  | .hole p =>
    match env (.ofList p.name) with
    | some value => value.toList
    | none => p.default.getD []

-- The variable that a piece lacks.
def Piece.lacks (env : Environment) : Piece → Option String
  | .plain _ => none
  | .hole p =>
    match env (.ofList p.name), p.default with
    | none, none => some (.ofList p.name)
    | _, _ => none

theorem lacks_hole_eq_some_iff {env : Environment} {p : Placeholder} {name : String} :
    Piece.lacks env (.hole p) = some name ↔ p.Missing env ∧ name = .ofList p.name := by
  simp only [Piece.lacks, Placeholder.Missing]
  cases env (.ofList p.name) <;> cases p.default <;> simp [eq_comm]

theorem lacks_eq_none_iff {env : Environment} {piece : Piece} :
    piece.lacks env = none ↔ ∀ p, piece = .hole p → ¬p.Missing env := by
  cases piece with
  | plain c => simp [Piece.lacks]
  | hole p =>
    cases hvalue : env (.ofList p.name) <;> cases hdefault : p.default <;>
      simp [Piece.lacks, Placeholder.Missing, hvalue, hdefault]

theorem Piece.expand_eq (env : Environment) (piece : Piece) :
    piece.expand env = match piece.lacks env with
      | some name => .error name
      | none => .ok (piece.filled env) := by
  cases piece with
  | plain c => rfl
  | hole p =>
    simp only [expand, lacks, filled, Placeholder.value]
    cases env (.ofList p.name) <;> cases p.default <;> rfl

-- Pieces are filled one by one up to the first that lacks its variable.
theorem mapM_expand (env : Environment) (parts : List Piece) :
    parts.mapM (Piece.expand env) = match parts.findSome? (Piece.lacks env) with
      | some name => .error name
      | none => .ok (parts.map (Piece.filled env)) := by
  induction parts with
  | nil => rfl
  | cons piece rest ih =>
    rw [List.mapM_cons, Piece.expand_eq, ih, List.findSome?_cons]
    cases piece.lacks env with
    | some name => rfl
    | none => cases rest.findSome? (Piece.lacks env) <;> rfl

theorem expand_eq (env : Environment) (text : String) :
    expand env text = match (pieces text.toList).findSome? (Piece.lacks env) with
      | some name => .error name
      | none => .ok (.ofList ((pieces text.toList).flatMap (Piece.filled env))) := by
  rw [expand, mapM_expand, List.flatMap_def]
  cases (pieces text.toList).findSome? (Piece.lacks env) <;> rfl

theorem expand_eq_error_iff {env : Environment} {text name : String} :
    expand env text = .error name ↔ ∃ before p after,
      pieces text.toList = before ++ .hole p :: after ∧ p.Missing env ∧
      (∀ q, .hole q ∈ before → ¬q.Missing env) ∧ name = .ofList p.name := by
  have hfound : expand env text = .error name ↔
      (pieces text.toList).findSome? (Piece.lacks env) = some name := by
    rw [expand_eq]
    cases (pieces text.toList).findSome? (Piece.lacks env) <;> simp
  rw [hfound, List.findSome?_eq_some_iff]
  constructor
  · rintro ⟨before, piece, after, hsplit, hlacks, hbefore⟩
    cases piece with
    | plain c => cases hlacks
    | hole p =>
      obtain ⟨hmissing, hname⟩ := lacks_hole_eq_some_iff.mp hlacks
      exact ⟨before, p, after, hsplit, hmissing,
        fun q hq => lacks_eq_none_iff.mp (hbefore _ hq) q rfl, hname⟩
  · rintro ⟨before, p, after, hsplit, hmissing, hbefore, hname⟩
    refine ⟨before, .hole p, after, hsplit, lacks_hole_eq_some_iff.mpr ⟨hmissing, hname⟩, ?_⟩
    intro piece hpiece
    refine lacks_eq_none_iff.mpr fun q hq => hbefore q (hq ▸ hpiece)

theorem expand_eq_ok {env : Environment} {text : String}
    (h : ∀ p, .hole p ∈ pieces text.toList → ¬p.Missing env) :
    expand env text = .ok (.ofList ((pieces text.toList).flatMap (Piece.filled env))) := by
  have hnone : (pieces text.toList).findSome? (Piece.lacks env) = none := by
    refine List.findSome?_eq_none_iff.mpr fun piece hpiece => ?_
    exact lacks_eq_none_iff.mpr fun p hp => h p (hp ▸ hpiece)
  rw [expand_eq, hnone]

-- Nothing but the variables of the placeholders is looked at.
theorem expand_congr {env env' : Environment} {text : String}
    (h : ∀ p, .hole p ∈ pieces text.toList → env' (.ofList p.name) = env (.ofList p.name)) :
    expand env' text = expand env text := by
  have hmap : (pieces text.toList).map (Piece.expand env') =
      (pieces text.toList).map (Piece.expand env) := by
    refine List.map_congr_left fun piece hpiece => ?_
    cases piece with
    | plain c => rfl
    | hole p => simp only [Piece.expand, Placeholder.value, h p hpiece]
  have hrun (env : Environment) : (pieces text.toList).mapM (Piece.expand env) =
      ((pieces text.toList).map (Piece.expand env)).mapM id := by
    rw [List.mapM_map]
    rfl
  rw [expand, expand, hrun, hmap, ← hrun]

-- A variable has no value if it is not set or cannot be read.
theorem environment_eq_none_iff (given : CommandLine.Variables) (name : String) :
    given.environment name = none ↔
      ∀ bytes, given name = some bytes → ∃ fault, decodeUtf8 bytes = .error fault := by
  simp only [CommandLine.Variables.environment, Option.map_eq_none_iff, Option.bind_eq_none_iff]
  refine forall₂_congr fun bytes _ => ?_
  cases decodeUtf8 bytes <;> simp [Except.toOption]

-- Expansion is one pass from the left over a text, and there is only one such pass.
-- It fails exactly if some placeholder lacks both a readable variable and a default,
-- with the name of the first of them. Otherwise each placeholder gives way to the
-- value of its variable, or else to its default, and all other text stays as it is.
-- The values are not looked at again, nor is any other variable.
theorem expand_scans (given : CommandLine.Variables) (text : String) :
    ∃ parts, Scan text.toList parts ∧
      (∀ others, Scan text.toList others → others = parts) ∧
      (∀ name, expand given.environment text = .error name ↔ ∃ before p after,
        parts = before ++ .hole p :: after ∧ p.Missing given.environment ∧
        (∀ q, .hole q ∈ before → ¬q.Missing given.environment) ∧ name = .ofList p.name) ∧
      ((∀ p, .hole p ∈ parts → ¬p.Missing given.environment) →
        expand given.environment text =
          .ok (.ofList (parts.flatMap (Piece.filled given.environment)))) ∧
      (∀ name, given.environment name = none ↔
        ∀ bytes, given name = some bytes → ∃ fault, decodeUtf8 bytes = .error fault) ∧
      ∀ other : CommandLine.Variables,
        (∀ p, .hole p ∈ parts → other (.ofList p.name) = given (.ofList p.name)) →
        expand other.environment text = expand given.environment text := by
  refine ⟨pieces text.toList, scan_pieces _, fun others h => h.eq_pieces,
    fun name => expand_eq_error_iff, expand_eq_ok, environment_eq_none_iff given, ?_⟩
  intro other hsame
  refine expand_congr fun p hp => ?_
  simp only [CommandLine.Variables.environment, hsame p hp]

end SysExporter.Config
