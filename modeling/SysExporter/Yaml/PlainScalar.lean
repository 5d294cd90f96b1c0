import SysExporter.Yaml.Folding

namespace SysExporter.Yaml

def isFlowIndicator (c : Char) : Bool :=
  c == ',' || c == '[' || c == ']' || c == '\x7b' || c == '\x7d'

-- A colon that ends a key, or inside brackets an indicator.
def endsPlain (inFlow : Bool) (c : Char) (rest : List Char) : Bool :=
  (c == ':' && endsWord rest) || (inFlow && isFlowIndicator c)

-- Inside brackets a colon cannot stand right before an indicator.
def isStrayColon (inFlow : Bool) (c : Char) (rest : List Char) : Bool :=
  inFlow && c == ':' && (rest.head?.any fun d => isFlowIndicator d || d == '?')

def plainWord (inFlow : Bool) : List Char → List Char
  | [] => []
  | c :: rest =>
    if endsWord (c :: rest) || isStrayColon inFlow c rest || endsPlain inFlow c rest then []
    else c :: plainWord inFlow rest

-- Words and the gaps between them. A gap counts only if a word follows it. The
-- second part of the result says whether a line break was passed after the last word.
def readPlain (inFlow : Bool) (start : Mark) (column : Nat) :
    Nat → List Char → Gap → Scan (List Char × Bool)
  | 0, text, gap => return (text, !gap.breaks.isEmpty)
  | fuel + 1, text, gap => do
    let cursor ← get
    if cursor.atDocumentIndicator || cursor.rest.head? == some '#' then
      return (text, !gap.breaks.isEmpty)
    let word := plainWord inFlow cursor.rest
    Scan.skip word.length
    match ← Scan.rest with
    | c :: rest =>
      if isStrayColon inFlow c rest then Scan.fail .plainScalar start .unexpectedColon
    | [] => pure ()
    let text := if word.isEmpty then text else text ++ gap.fold ++ word
    let pending := if word.isEmpty then gap else Gap.empty
    match ← Scan.next? with
    | none => return (text, !pending.breaks.isEmpty)
    | some c =>
      if !isSpacing c && !isBreak c then return (text, !pending.breaks.isEmpty)
      let gap ← readGap .plainScalar start column ((← Scan.rest).length + 1) pending
      if !inFlow && (← Scan.mark).column < column then return (text, !gap.breaks.isEmpty)
      readPlain inFlow start column fuel text gap

-- A scalar without quotes. Outside brackets its lines stay right of the given column.
def plainScalar (inFlow : Bool) (column : Nat) : Scan (List Char × Bool) := do
  readPlain inFlow (← Scan.mark) column ((← Scan.rest).length + 1) [] Gap.empty

end SysExporter.Yaml
