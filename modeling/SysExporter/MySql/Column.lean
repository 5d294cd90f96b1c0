import SysExporter.Binary64.Rounding
import SysExporter.MySql.Failure

namespace SysExporter.MySql

open Text

inductive ColumnType where
  | tiny
  | short
  | medium
  | long
  | longLong
  | year
  | float
  | double
  | decimal
  | bit
  | string
  | varString
  | tinyBlob
  | blob
  | mediumBlob
  | longBlob
  | enumeration
  | set
  | json
  | geometry
  | date
  | time
  | dateTime
  | timestamp
  deriving DecidableEq, Repr

-- What a server says of a column: its type, flags and display width.
structure Column where
  type : ColumnType
  isUnsigned : Bool
  isBinary : Bool
  size : Nat
  deriving DecidableEq, Repr

-- What becomes of the bytes of a value.
inductive Reading where
  | signed
  | unsigned
  | single
  | double
  | text
  | temporal
  | raw
  deriving DecidableEq, Repr

namespace Column

def isInteger : ColumnType → Bool
  | .tiny | .short | .medium | .long | .longLong => true
  | _ => false

-- An integer one digit wide is a truth value, which has a sign in any case.
-- Texts of binary columns are not read as texts.
def reading (c : Column) : Reading :=
  if isInteger c.type then
    if c.isUnsigned && !(c.type == .tiny && c.size == 1) then .unsigned else .signed
  else match c.type with
    | .float => .single
    | .double => .double
    | .string | .varString | .tinyBlob | .blob | .mediumBlob | .longBlob =>
      if c.isBinary then .raw else .text
    | .enumeration | .set => .text
    | .date | .time | .dateTime | .timestamp => .temporal
    | _ => .raw

-- Bytes with the least significant one first.
def littleEndian (bytes : Bytes) : Nat :=
  bytes.foldr (fun byte value => value * 256 + byte.toNat) 0

-- The number in two's complement of as many bits as there are.
def signedValue (bytes : Bytes) : Int :=
  (littleEndian bytes : Int).bmod (Nat.pow 256 bytes.length)

-- The value of a column. Missing bytes are the missing value. A point in time
-- comes with its length in front, and none at all is missing too.
def convert (c : Column) (index : Nat) (bytes : Option Bytes) : Except Failure Sql.Value :=
  match bytes with
  | none => .ok .null
  | some bytes =>
    match c.reading with
    | .signed => .ok (.int (Int64.ofInt (signedValue bytes)))
    | .unsigned => .ok (.uint (littleEndian bytes).toUInt64)
    | .single => .ok (.float (.ofBinary32 (littleEndian bytes).toUInt32))
    | .double => .ok (.float ⟨(littleEndian bytes).toUInt64⟩)
    | .text =>
      match decodeUtf8 bytes with
      | .ok text => .ok (.text (String.ofList text))
      | .error fault => .error (.columnDecode (toString index) fault.message)
    | .temporal => .ok (if bytes.isEmpty then .null else .bytes (bytes.length.toUInt8 :: bytes))
    | .raw => .ok (.bytes bytes)

end Column

-- The values of a row in the order of its columns. The first that cannot be
-- read is reported.
def convertRow : Nat → List Column → List (Option Bytes) → Except Failure (List Sql.Value)
  | index, column :: columns, bytes :: rest => do
    let value ← column.convert index bytes
    return value :: (← convertRow (index + 1) columns rest)
  | _, _, _ => return []

end SysExporter.MySql
