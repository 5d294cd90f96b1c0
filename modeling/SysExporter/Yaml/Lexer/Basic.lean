import SysExporter.Yaml.Token

namespace SysExporter.Yaml

-- A token that turns out to be a key if a colon follows it on its line. The
-- number is its place among the tokens. In block style a token at the
-- indentation of a mapping is required to be a key.
structure KeyCandidate where
  isRequired : Bool
  number : Nat
  mark : Mark
  deriving DecidableEq, Repr

-- A key lies on one line and is not longer than 1024 characters.
def KeyCandidate.isStale (candidate : KeyCandidate) (now : Mark) : Bool :=
  candidate.mark.line < now.line || candidate.mark.index + 1024 < now.index

-- The candidate of the innermost collection comes apart from those around it.
-- There is one per pair of brackets, and one for the text as a whole.
structure Lexer where
  cursor : Cursor
  tokens : Array Token
  indentation : Option Nat
  outerIndentations : List (Option Nat)
  keyAllowed : Bool
  candidate : Option KeyCandidate
  outerCandidates : List (Option KeyCandidate)

abbrev Lex := ExceptT SyntaxFault (StateM Lexer)

namespace Lexer

def ofText (text : List Char) : Lexer where
  cursor := ⟨.start, text⟩
  tokens := #[]
  indentation := none
  outerIndentations := []
  keyAllowed := true
  candidate := none
  outerCandidates := []

def inFlow (l : Lexer) : Bool :=
  !l.outerCandidates.isEmpty

-- Whether the innermost block collection is left of the column.
def isLeftOf (l : Lexer) (column : Nat) : Bool :=
  match l.indentation with
  | none => true
  | some indentation => indentation < column

-- Tokens from here on may still be preceded by a key token.
def settled (l : Lexer) : Nat :=
  (l.candidate :: l.outerCandidates).foldl
    (fun least candidate => (candidate.map (min least ·.number)).getD least) l.tokens.size

end Lexer

namespace Lex

def fail (context : Option (Activity × Mark)) (problem : Problem) : Lex α := do
  throw ⟨.scanner, problem, (← get).cursor.mark, context⟩

def mark : Lex Mark := return (← get).cursor.mark

def scan (s : Scan α) : Lex α := do
  let l ← get
  match s.run l.cursor with
  | .error fault => throw fault
  | .ok (result, cursor) => do
    set { l with cursor := cursor }
    return result

def push (token : Token) : Lex Unit :=
  modify fun l => { l with tokens := l.tokens.push token }

def pushAt (symbol : Symbol) (mark : Mark) : Lex Unit :=
  push ⟨symbol, mark, mark⟩

def pushScanned (s : Scan Symbol) : Lex Unit := do
  let start ← mark
  let symbol ← scan s
  push ⟨symbol, start, ← mark⟩

def pushIndicator (symbol : Symbol) (length : Nat) : Lex Unit :=
  pushScanned do
    Scan.skip length
    return symbol

def insertAt (number : Nat) (symbol : Symbol) (mark : Mark) : Lex Unit :=
  modify fun l =>
    { l with
      tokens := l.tokens.extract 0 number ++ #[⟨symbol, mark, mark⟩] ++
        l.tokens.extract number l.tokens.size }

def allowKey (isAllowed : Bool) : Lex Unit :=
  modify fun l => { l with keyAllowed := isAllowed }

end Lex

end SysExporter.Yaml
