namespace SysExporter.Config

-- The values of the variables that are set to readable text.
abbrev Environment := String → Option String

-- A variable to be filled in, with what stands for it when it is not set.
structure Placeholder where
  name : List Char
  default : Option (List Char)
  deriving DecidableEq, Repr

def isNameStart (c : Char) : Bool :=
  ('a' ≤ c && c ≤ 'z') || ('A' ≤ c && c ≤ 'Z') || c == '_'

def isNameChar (c : Char) : Bool :=
  isNameStart c || ('0' ≤ c && c ≤ '9')

def openBrace : Char := '\x7b'

def closeBrace : Char := '\x7d'

-- What follows the name: the closing brace, or a default up to the next one.
def readDefault : List Char → Option (Option (List Char) × List Char)
  | ':' :: '-' :: rest =>
    match rest.dropWhile (· ≠ closeBrace) with
    | [] => none
    | _ :: after => some (some (rest.takeWhile (· ≠ closeBrace)), after)
  | c :: rest => if c = closeBrace then some (none, rest) else none
  | [] => none

-- A placeholder at the very start of the text, with the text after it.
def readPlaceholder : List Char → Option (Placeholder × List Char)
  | '$' :: brace :: first :: rest =>
    if brace = openBrace && isNameStart first then
      (readDefault (rest.dropWhile isNameChar)).map fun (default, after) =>
        (⟨first :: rest.takeWhile isNameChar, default⟩, after)
    else none
  | _ => none

-- A text is cut into plain characters and placeholders in one pass from the
-- left. A placeholder that does not close is plain text.
inductive Piece where
  | plain (c : Char)
  | hole (p : Placeholder)
  deriving DecidableEq, Repr

theorem readDefault_length {text : List Char} {default : Option (List Char)} {after : List Char}
    (h : readDefault text = some (default, after)) : after.length < text.length := by
  unfold readDefault at h
  split at h
  · rename_i rest
    split at h
    · simp at h
    · rename_i head tail hd
      have hl := (List.dropWhile_suffix (· ≠ closeBrace) (l := rest)).length_le
      rw [hd] at hl
      simp only [Option.some.injEq, Prod.mk.injEq] at h
      simp only [List.length_cons] at hl ⊢
      obtain ⟨_, rfl⟩ := h
      omega
  · split at h
    · simp only [Option.some.injEq, Prod.mk.injEq] at h
      obtain ⟨_, rfl⟩ := h
      simp
    · simp at h
  · simp at h

theorem readPlaceholder_length {text : List Char} {p : Placeholder} {after : List Char}
    (h : readPlaceholder text = some (p, after)) : after.length < text.length := by
  unfold readPlaceholder at h
  split at h
  · rename_i brace first rest
    split at h
    · obtain ⟨⟨default, tail⟩, hr, he⟩ := Option.map_eq_some_iff.1 h
      have hl := readDefault_length hr
      have hd := (List.dropWhile_suffix isNameChar (l := rest)).length_le
      simp only [Prod.mk.injEq] at he
      obtain ⟨_, rfl⟩ := he
      simp only [List.length_cons]
      omega
    · simp at h
  · simp at h

def pieces (text : List Char) : List Piece :=
  match text with
  | [] => []
  | c :: rest =>
    match _h : readPlaceholder (c :: rest) with
    | some (p, after) => .hole p :: pieces after
    | none => .plain c :: pieces rest
termination_by text.length
decreasing_by
  · exact readPlaceholder_length _h
  · simp

-- A variable that is set wins over the default, even if it is empty.
def Placeholder.value (env : Environment) (p : Placeholder) : Option (List Char) :=
  match env (String.ofList p.name) with
  | some value => some value.toList
  | none => p.default

def Piece.expand (env : Environment) : Piece → Except String (List Char)
  | .plain c => .ok [c]
  | .hole p =>
    match p.value env with
    | some value => .ok value
    | none => .error (String.ofList p.name)

-- Values go in as they are and are not read again. The fault is the name of
-- the first placeholder that has no value.
def expand (env : Environment) (text : String) : Except String String := do
  let parts ← (pieces text.toList).mapM (Piece.expand env)
  return String.ofList parts.flatten

end SysExporter.Config
