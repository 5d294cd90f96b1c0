import SysExporter.Source.Feed

namespace SysExporter.MySql

inductive Failure where
  | configuration (text : String)
  | database (text : String)
  | io (text : String)
  | tls (text : String)
  | protocol (text : String)
  | rowNotFound
  | typeNotFound (name : String)
  | columnIndexOutOfBounds (index length : Nat)
  | columnNotFound (name : String)
  | columnDecode (column text : String)
  | encode (text : String)
  | decode (text : String)
  | driver (text : String)
  | poolTimedOut
  | poolClosed
  | workerCrashed
  | nestedBegin
  | beginFailed
  deriving DecidableEq, Repr

namespace Failure

def message : Failure → String
  | .configuration text => "error with configuration: " ++ text
  | .database text => "error returned from database: " ++ text
  | .io text => "error communicating with database: " ++ text
  | .tls text => "error occurred while attempting to establish a TLS connection: " ++ text
  | .protocol text => "encountered unexpected or invalid data: " ++ text
  | .rowNotFound => "no rows returned by a query that expected to return at least one row"
  | .typeNotFound name => "type named " ++ name ++ " not found"
  | .columnIndexOutOfBounds index length =>
    s!"column index out of bounds: the len is {length}, but the index is {index}"
  | .columnNotFound name => "no column found for name: " ++ name
  | .columnDecode column text => "error occurred while decoding column " ++ column ++ ": " ++ text
  | .encode text => "error occurred while encoding a value: " ++ text
  | .decode text => "error occurred while decoding: " ++ text
  | .driver text => "error in Any driver mapping: " ++ text
  | .poolTimedOut => "pool timed out while waiting for an open connection"
  | .poolClosed => "attempted to acquire a connection on a closed pool"
  | .workerCrashed => "attempted to communicate with a crashed background worker"
  | .nestedBegin => "attempted to call begin_with at non-zero transaction depth"
  | .beginFailed =>
    "got unexpected connection status after attempting to begin transaction"

-- Whether a row was there but could not be made out.
def isDecoding : Failure → Bool
  | .columnDecode .. | .decode _ | .columnIndexOutOfBounds .. | .columnNotFound _
  | .typeNotFound _ => true
  | _ => false

-- What the failure is to those who read from a source.
def toFault (f : Failure) : Source.Fault :=
  if f.isDecoding then .decode f.message else .query f.message

end Failure

end SysExporter.MySql
