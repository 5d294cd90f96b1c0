import SysExporter.Binary64.Text
import SysExporter.Sql.Value
import SysExporter.Text.Blank
import SysExporter.Text.Numeral
import SysExporter.Text.Quoted

namespace SysExporter.Sql

open Text

structure Row where
  values : List Value
  deriving DecidableEq, BEq

def Row.size (row : Row) : Nat :=
  row.values.length

def Row.get? (row : Row) (index : Nat) : Option Value :=
  row.values[index]?

-- Why a column cannot be read as what its reader wants.
inductive ColumnFault where
  | missing (index size : Nat)
  | notText (index : Nat) (kind : String)
  | notUnsigned (index : Nat) (kind : String)
  | notUtf8 (index : Nat) (fault : Utf8Fault)
  | negative (index : Nat) (value : Int64)
  | notNumeral (index : Nat) (text : String) (fault : NumeralFault)
  deriving DecidableEq

def ColumnFault.message : ColumnFault → String
  | .missing index size => s!"column {index} out of range for row of {size}"
  | .notText index kind => s!"column {index}: expected string, got {kind}"
  | .notUnsigned index kind => s!"column {index}: expected unsigned integer, got {kind}"
  | .notUtf8 index fault => s!"column {index}: invalid UTF-8: " ++ fault.message
  | .negative index value =>
    s!"column {index}: negative value {value.toInt} for unsigned column"
  | .notNumeral index text fault =>
    s!"column {index}: cannot parse " ++ quote text ++ " as unsigned integer: " ++ fault.message

def Row.column (row : Row) (index : Nat) : Except ColumnFault Value :=
  match row.get? index with
  | some value => .ok value
  | none => .error (.missing index row.size)

-- Text as it stands, or bytes that are UTF-8.
def Row.readText (row : Row) (index : Nat) : Except ColumnFault String := do
  match ← row.column index with
  | .text s => .ok s
  | .bytes b => ((decodeUtf8 b).mapError (.notUtf8 index)).map String.ofList
  | other => .error (.notText index other.kind)

-- The numeral may have blanks around it. It must be below 2 ^ 64.
def readNumeral (index : Nat) (text : List Char) : Except ColumnFault UInt64 :=
  match parseUnsigned UInt64.size (trim text) with
  | .ok n => .ok n.toUInt64
  | .error fault => .error (.notNumeral index (String.ofList text) fault)

-- Any number that is whole and not negative, or the numeral of one.
def Row.readUnsigned (row : Row) (index : Nat) : Except ColumnFault UInt64 := do
  match ← row.column index with
  | .uint n => .ok n
  | .int n => if n.toInt < 0 then .error (.negative index n) else .ok n.toInt.toNat.toUInt64
  | .text s => readNumeral index s.toList
  | .bytes b =>
    match decodeUtf8 b with
    | .ok text => readNumeral index text
    | .error fault => .error (.notUtf8 index fault)
  | other => .error (.notUnsigned index other.kind)

def Value.toText : Value → String
  | .null => "NULL"
  | .int n => toString n.toInt
  | .uint n => toString n.toNat
  | .float x => x.toText
  | .text s => quote s
  | .bytes b => s!"<{b.length} bytes>"

-- The row on one line, with text quoted and bytes counted.
def Row.toText (row : Row) : String :=
  "(" ++ ", ".intercalate (row.values.map Value.toText) ++ ")"

end SysExporter.Sql
