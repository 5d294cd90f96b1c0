import SysExporter.Yaml.BlockScalar
import SysExporter.Yaml.Lexer.Candidate
import SysExporter.Yaml.Lexer.Indentation
import SysExporter.Yaml.PlainScalar
import SysExporter.Yaml.QuotedScalar

namespace SysExporter.Yaml

namespace Lex

def lexDirective : Lex Unit := do
  dedent none
  dropCandidate
  allowKey false
  pushScanned (.directive <$> readDirective)

def lexDocumentIndicator (symbol : Symbol) : Lex Unit := do
  dedent none
  dropCandidate
  allowKey false
  pushIndicator symbol 3

def lexFlowStart (symbol : Symbol) : Lex Unit := do
  saveCandidate
  modify fun l =>
    { l with
      keyAllowed := true, candidate := none, outerCandidates := l.candidate :: l.outerCandidates }
  pushIndicator symbol 1

def lexFlowEnd (symbol : Symbol) : Lex Unit := do
  dropCandidate
  modify fun l =>
    match l.outerCandidates with
    | [] => { l with keyAllowed := false }
    | outer :: rest => { l with keyAllowed := false, candidate := outer, outerCandidates := rest }
  pushIndicator symbol 1

def lexFlowEntry : Lex Unit := do
  dropCandidate
  allowKey true
  pushIndicator .flowEntry 1

-- In block style an entry, an explicit key or a bare value begins a collection
-- unless one stands at its column.
def beginBlock (symbol : Symbol) (problem : Problem) : Lex Unit := do
  let l ← get
  if !l.inFlow then
    if !l.keyAllowed then fail none problem
    indent l.cursor.mark.column none symbol l.cursor.mark

def lexBlockEntry : Lex Unit := do
  beginBlock .blockSequenceStart .sequenceEntryNotAllowed
  dropCandidate
  allowKey true
  pushIndicator .blockEntry 1

def lexKey : Lex Unit := do
  beginBlock .blockMappingStart .keyNotAllowed
  dropCandidate
  allowKey (!(← get).inFlow)
  pushIndicator .key 1

-- A colon makes the candidate a key after the fact.
def lexValue : Lex Unit := do
  match (← get).candidate with
  | some candidate => do
    insertAt candidate.number .key candidate.mark
    indent candidate.mark.column (some candidate.number) .blockMappingStart candidate.mark
    modify fun l => { l with candidate := none }
    allowKey false
  | none => do
    beginBlock .blockMappingStart .valueNotAllowed
    allowKey (!(← get).inFlow)
  pushIndicator .value 1

def readName (activity : Activity) : Scan (List Char) := do
  let start ← Scan.mark
  Scan.skip 1
  let name ← Scan.takeWhile isWordChar
  let rest ← Scan.rest
  if !name.isEmpty && (endsWord rest || rest.head?.any ("?:,]\x7d%@`".toList.contains ·)) then
    return name
  else Scan.fail activity start .noWordCharacter

def lexContent (s : Scan Symbol) : Lex Unit := do
  saveCandidate
  allowKey false
  pushScanned s

def lexBlockScalar (isLiteral : Bool) : Lex Unit := do
  dropCandidate
  allowKey true
  let column := (← get).indentation
  pushScanned do
    return .scalar (← blockScalar isLiteral column) (if isLiteral then .literal else .folded)

def lexQuoted (isDouble : Bool) : Lex Unit :=
  lexContent do
    return .scalar (← quotedScalar isDouble) (if isDouble then .doubleQuoted else .singleQuoted)

def lexPlain : Lex Unit := do
  saveCandidate
  allowKey false
  let l ← get
  let column := match l.indentation with
    | none => 0
    | some indentation => indentation + 1
  let start ← mark
  let (text, passedBreak) ← scan (plainScalar l.inFlow column)
  push ⟨.scalar text .plain, start, ← mark⟩
  if passedBreak then allowKey true

end Lex

end SysExporter.Yaml
