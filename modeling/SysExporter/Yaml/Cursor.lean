import SysExporter.Yaml.Fault

namespace SysExporter.Yaml

def isSpacing (c : Char) : Bool :=
  c == ' ' || c == '\t'

def isBreak (c : Char) : Bool :=
  c == '\r' || c == '\n' || c == '\u0085' || c == '\u2028' || c == '\u2029'

-- The characters of names: letters, digits, the underscore and the hyphen.
def isWordChar (c : Char) : Bool :=
  ('0' ≤ c && c ≤ '9') || ('a' ≤ c && c ≤ 'z') || ('A' ≤ c && c ≤ 'Z') || c == '_' || c == '-'

-- The text ends here, or a space, a tab or a line break comes next.
def endsWord : List Char → Bool
  | [] => true
  | c :: _ => isSpacing c || isBreak c

-- The part of a text that is still to be read, and where it begins.
structure Cursor where
  mark : Mark
  rest : List Char
  deriving DecidableEq, Repr

namespace Cursor

-- Characters of one line are passed over.
def skip (c : Cursor) (count : Nat) : Cursor :=
  ⟨c.mark.right count, c.rest.drop count⟩

-- The longest run of characters of one line that fit, and what follows it.
def span (p : Char → Bool) (c : Cursor) : List Char × Cursor :=
  (c.rest.takeWhile p, ⟨c.mark.right (c.rest.takeWhile p).length, c.rest.dropWhile p⟩)

-- A line break as it counts in a value, and the next line. A carriage return
-- and a line feed make one break.
def lineBreak? (c : Cursor) : Option (Char × Cursor) :=
  match c.rest with
  | '\r' :: '\n' :: rest => some ('\n', ⟨c.mark.down 2, rest⟩)
  | first :: rest =>
    if first == '\u2028' || first == '\u2029' then some (first, ⟨c.mark.down 1, rest⟩)
    else if isBreak first then some ('\n', ⟨c.mark.down 1, rest⟩)
    else none
  | [] => none

-- A line that begins with three hyphens or three points and a blank.
def atDocumentIndicator (c : Cursor) : Bool :=
  c.mark.column == 0 &&
    (c.rest.take 3 == ['-', '-', '-'] || c.rest.take 3 == ['.', '.', '.']) &&
    endsWord (c.rest.drop 3)

end Cursor

abbrev Scan := StateT Cursor (Except SyntaxFault)

namespace Scan

def fail (activity : Activity) (start : Mark) (problem : Problem) : Scan α := do
  throw ⟨.scanner, problem, (← get).mark, some (activity, start)⟩

def mark : Scan Mark := return (← get).mark

def rest : Scan (List Char) := return (← get).rest

def next? : Scan (Option Char) := return (← get).rest.head?

def skip (count : Nat) : Scan Unit := modify (·.skip count)

def takeWhile (p : Char → Bool) : Scan (List Char) := modifyGet (·.span p)

def skipWhile (p : Char → Bool) : Scan Unit := do
  let _ ← takeWhile p

def lineBreak : Scan (List Char) := do
  match (← get).lineBreak? with
  | some (c, next) => do
    set next
    return [c]
  | none => return []

-- The rest of a line may hold a comment but nothing else.
def endLine (activity : Activity) (start : Mark) : Scan Unit := do
  skipWhile isSpacing
  if (← next?) == some '#' then skipWhile (!isBreak ·)
  match ← next? with
  | none => return ()
  | some c =>
    if isBreak c then
      let _ ← lineBreak
    else fail activity start .noCommentOrBreak

end Scan

end SysExporter.Yaml
