import SysExporter.Yaml.Lexer.Basic

namespace SysExporter.Yaml

namespace Lex

-- A required key without its colon is a fault.
def failCandidate (candidate : KeyCandidate) : Lex Unit := do
  if candidate.isRequired then fail (some (.simpleKey, candidate.mark)) .noColon

def dropCandidate : Lex Unit := do
  match (← get).candidate with
  | none => return ()
  | some candidate => do
    failCandidate candidate
    modify fun l => { l with candidate := none }

def saveCandidate : Lex Unit := do
  let l ← get
  if l.keyAllowed then
    dropCandidate
    let column := l.cursor.mark.column
    let isRequired := !l.inFlow && l.indentation == some column
    modify fun l => { l with candidate := some ⟨isRequired, l.tokens.size, l.cursor.mark⟩ }

def dropIfStale (now : Mark) : Option KeyCandidate → Lex (Option KeyCandidate)
  | none => return none
  | some candidate => do
    if candidate.isStale now then
      failCandidate candidate
      return none
    else return some candidate

def dropStaleCandidates : Lex Unit := do
  let now ← mark
  let outer ← (← get).outerCandidates.mapM (dropIfStale now)
  let candidate ← dropIfStale now (← get).candidate
  modify fun l => { l with candidate := candidate, outerCandidates := outer }

end Lex

end SysExporter.Yaml
