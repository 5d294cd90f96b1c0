import SysExporter.Sql.Row
import SysExporter.Text.Quoted

namespace SysExporter.Source

inductive Fault where
  | query (text : String)
  | decode (text : String)
  deriving DecidableEq

def Fault.message : Fault → String
  | .query text => "query error: " ++ text
  | .decode text => "decode error: " ++ text

def Fault.debug : Fault → String
  | .query text => "Query(" ++ Text.quote text ++ ")"
  | .decode text => "Decode(" ++ Text.quote text ++ ")"

abbrev Item := Except Fault Sql.Row

-- The answer to a query: items one by one, and then an end or silence.
structure Feed where
  items : List Item
  stalls : Bool

-- A scripted answer: the rows, or one failure in place of all of them or of
-- the row at an index.
structure Script where
  rows : List Sql.Row
  queryError : Option String
  decodeError : Option (Nat × String)
  stalls : Bool

-- Nothing follows a row that fails. An index past the last row fails none.
def Script.items (script : Script) : List Item :=
  match script.queryError, script.decodeError with
  | some text, _ => [.error (.query text)]
  | none, none => script.rows.map .ok
  | none, some (index, text) =>
    if index < script.rows.length then
      (script.rows.take index).map .ok ++ [.error (.decode text)]
    else script.rows.map .ok

def Script.feed (script : Script) : Feed :=
  ⟨script.items, script.stalls⟩

-- What fetching finds: an item, the end, or nothing at all for ever.
inductive Fetched where
  | item (i : Item) (rest : Feed)
  | ended
  | silent

def Feed.fetch (feed : Feed) : Fetched :=
  match feed.items with
  | i :: rest => .item i { feed with items := rest }
  | [] => if feed.stalls then .silent else .ended

end SysExporter.Source
