import SysExporter.Text.Blank
import SysExporter.Text.Numeral
import SysExporter.Text.Quoted

namespace SysExporter

open Text

structure ServerVersion where
  major : UInt32
  minor : UInt32
  patch : UInt32
  deriving DecidableEq, Repr

namespace ServerVersion

-- Versions are ordered by their numbers, the first that differs deciding.
def order (a b : ServerVersion) : Ordering :=
  (compare a.major b.major).then ((compare a.minor b.minor).then (compare a.patch b.patch))

instance : LE ServerVersion where
  le a b := (order a b).isLE = true

instance (a b : ServerVersion) : Decidable (a ≤ b) :=
  inferInstanceAs (Decidable ((order a b).isLE = true))

-- A patch number of zero is left out.
def toText (v : ServerVersion) : String :=
  if v.patch = 0 then s!"{v.major}.{v.minor}" else s!"{v.major}.{v.minor}.{v.patch}"

structure ParseFault where
  raw : String
  deriving DecidableEq, Repr

def ParseFault.message (fault : ParseFault) : String :=
  "invalid server version " ++ quote fault.raw

def isNumeric (c : Char) : Bool :=
  isDigit c || c == '.'

-- The pieces between dots, empty ones dropped.
def pieces (text : List Char) : List (List Char) :=
  (text.splitOn '.').filter (· ≠ [])

def readPiece (piece : List Char) : Option UInt32 :=
  (parseUnsigned UInt32.size piece).toOption.map Nat.toUInt32

-- Two numbers are needed and a third one counts. What follows the leading
-- digits and dots is ignored.
def ofPieces : List (List Char) → Option ServerVersion
  | major :: minor :: [] => do return ⟨← readPiece major, ← readPiece minor, 0⟩
  | major :: minor :: patch :: _ => do
    return ⟨← readPiece major, ← readPiece minor, ← readPiece patch⟩
  | _ => none

def parse (raw : String) : Except ParseFault ServerVersion :=
  match ofPieces (pieces ((trim raw.toList).takeWhile isNumeric)) with
  | some v => .ok v
  | none => .error ⟨raw⟩

end ServerVersion

end SysExporter
