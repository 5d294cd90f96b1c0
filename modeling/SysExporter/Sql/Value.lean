import SysExporter.Binary64.Basic
import SysExporter.Text.Utf8

namespace SysExporter.Sql

inductive Value where
  | null
  | int (n : Int64)
  | uint (n : UInt64)
  | float (x : Binary64)
  | text (s : String)
  | bytes (b : Text.Bytes)
  deriving DecidableEq, BEq

def Value.kind : Value → String
  | .null => "NULL"
  | .int _ => "signed integer"
  | .uint _ => "unsigned integer"
  | .float _ => "float"
  | .text _ => "text"
  | .bytes _ => "bytes"

end SysExporter.Sql
