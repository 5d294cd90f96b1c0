import SysExporter.Yaml.Cursor

namespace SysExporter.Yaml

-- What separates two words of a scalar: spacing, or line breaks. Spacing
-- around line breaks does not count.
structure Gap where
  spacing : List Char
  breaks : List Char
  deriving DecidableEq, Repr

namespace Gap

def empty : Gap := ⟨[], []⟩

-- One line feed is a space, and more are one fewer. The other line breaks
-- stay as they are.
def fold (g : Gap) : List Char :=
  match g.breaks with
  | [] => g.spacing
  | ['\n'] => [' ']
  | '\n' :: more => more
  | breaks => breaks

end Gap

-- Spacing and line breaks up to the next word. After a line break a tab may
-- not stand left of the given column.
def readGap (activity : Activity) (start : Mark) (column : Nat) : Nat → Gap → Scan Gap
  | 0, gap => return gap
  | fuel + 1, gap => do
    match ← Scan.next? with
    | none => return gap
    | some c =>
      if isSpacing c then
        if gap.breaks.isEmpty then
          let spacing ← Scan.takeWhile isSpacing
          readGap activity start column fuel ⟨gap.spacing ++ spacing, []⟩
        else
          if c == '\t' && (← Scan.mark).column < column then
            Scan.fail activity start .tabViolatesIndentation
          Scan.skip 1
          readGap activity start column fuel gap
      else
        match ← Scan.lineBreak with
        | [] => return gap
        | breaks => readGap activity start column fuel ⟨gap.spacing, gap.breaks ++ breaks⟩

end SysExporter.Yaml
