import SysExporter.Text.Numeral
import SysExporter.Yaml.Cursor

namespace SysExporter.Yaml

open Text

-- What becomes of the line breaks at the end.
inductive Chomping where
  | strip
  | clip
  | keep
  deriving DecidableEq, Repr

def readChomping? : Scan (Option Chomping) := do
  match ← Scan.next? with
  | some '+' => do
    Scan.skip 1
    return some .keep
  | some '-' => do
    Scan.skip 1
    return some .strip
  | _ => return none

def readIncrement? (start : Mark) : Scan (Option Nat) := do
  match (← Scan.next?).bind digitValue? with
  | none => return none
  | some 0 => Scan.fail .blockScalar start .zeroIndentation
  | some increment => do
    Scan.skip 1
    return some increment

-- The two indicators come in either order.
def readHeader (start : Mark) : Scan (Chomping × Option Nat) := do
  match ← readChomping? with
  | some chomping => return (chomping, ← readIncrement? start)
  | none => do
    let increment ← readIncrement? start
    let chomping ← if increment.isSome then readChomping? else pure none
    return (chomping.getD .clip, increment)

-- Lines that hold nothing but indentation, and the deepest of them. The
-- indentation is not known yet if it is zero.
def readEmptyLines (start : Mark) (indentation : Nat) :
    Nat → List Char → Nat → Scan (List Char × Nat)
  | 0, breaks, deepest => return (breaks, deepest)
  | fuel + 1, breaks, deepest => do
    let column := (← Scan.mark).column
    let spaces := ((← Scan.rest).takeWhile (· == ' ')).length
    let count := if indentation = 0 then spaces else min spaces (indentation - column)
    Scan.skip count
    let deepest := max deepest (column + count)
    if (indentation = 0 || column + count < indentation) && (← Scan.next?) == some '\t' then
      Scan.fail .blockScalar start .tabForIndentation
    match ← Scan.lineBreak with
    | [] => return (breaks, deepest)
    | more => readEmptyLines start indentation fuel (breaks ++ more) deepest

-- The text so far, the line break after its last line, and those of the empty
-- lines after that.
structure BlockText where
  text : List Char
  lineEnd : List Char
  emptyLines : List Char
  deriving DecidableEq, Repr

-- Two lines of a folded scalar join at a space, unless one begins with spacing.
def BlockText.joint (b : BlockText) (isFolded : Bool) : List Char :=
  if isFolded && b.lineEnd == ['\n'] then
    if b.emptyLines.isEmpty then [' '] else b.emptyLines
  else b.lineEnd ++ b.emptyLines

def BlockText.chomp (b : BlockText) : Chomping → List Char
  | .strip => b.text
  | .clip => b.text ++ b.lineEnd
  | .keep => b.text ++ b.lineEnd ++ b.emptyLines

def readLines (isLiteral : Bool) (start : Mark) (indentation : Nat) :
    Nat → BlockText → Bool → Scan BlockText
  | 0, block, _ => return block
  | fuel + 1, block, wasSpaced => do
    let cursor ← get
    if cursor.mark.column ≠ indentation || cursor.rest.isEmpty then return block
    let isSpaced := cursor.rest.head?.any isSpacing
    let line ← Scan.takeWhile (!isBreak ·)
    let lineEnd ← Scan.lineBreak
    let (emptyLines, _) ← readEmptyLines start indentation (cursor.rest.length + 1) [] 0
    let joint := block.joint (!isLiteral && !wasSpaced && !isSpaced)
    readLines isLiteral start indentation fuel ⟨block.text ++ joint ++ line, lineEnd, emptyLines⟩
      isSpaced

-- A scalar that is introduced by a bar or an angle. The column is that of the
-- collection around it, or nothing at the top.
def blockScalar (isLiteral : Bool) (column : Option Nat) : Scan (List Char) := do
  let start ← Scan.mark
  Scan.skip 1
  let (chomping, increment) ← readHeader start
  Scan.endLine .blockScalar start
  let room := (← Scan.rest).length + 1
  let known := match increment with
    | some n => column.getD 0 + n
    | none => 0
  let (emptyLines, deepest) ← readEmptyLines start known room [] 0
  let least := match column with
    | some n => n + 1
    | none => 1
  let indentation := if known = 0 then max deepest least else known
  let block ← readLines isLiteral start indentation room ⟨[], [], emptyLines⟩ false
  return block.chomp chomping

end SysExporter.Yaml
