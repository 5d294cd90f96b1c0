namespace SysExporter.Yaml

-- A place in a text. All three numbers start at zero and count characters.
structure Mark where
  index : Nat
  line : Nat
  column : Nat
  deriving DecidableEq, Repr

namespace Mark

def start : Mark := ⟨0, 0, 0⟩

def right (m : Mark) (count : Nat) : Mark :=
  ⟨m.index + count, m.line, m.column + count⟩

-- The beginning of the next line, past a line break of so many characters.
def down (m : Mark) (count : Nat) : Mark :=
  ⟨m.index + count, m.line + 1, 0⟩

def isStart (m : Mark) : Bool :=
  m.line == 0 && m.column == 0

-- People count lines and columns from one.
def text (m : Mark) : String :=
  s!"line {m.line + 1} column {m.column + 1}"

end Mark

end SysExporter.Yaml
