import SysExporter.Config.Misfit
import SysExporter.Config.Settings
import SysExporter.Duration.Reader

namespace SysExporter.Config

open Text Yaml

abbrev Reading := Except ReadingFault

-- A node of a file as the reader of settings meets it: aliases have been
-- followed, and the path leads there.
structure Spot where
  document : Document
  path : Path
  node : Node

namespace Spot

def follow (document : Document) (node : Node) : Node :=
  match node with
  | .aliasOf _ anchor => (document.target? anchor).getD node
  | _ => node

def ofNode (document : Document) (path : Path) (node : Node) : Spot :=
  ⟨document, path, follow document node⟩

def complain (s : Spot) (mark : Mark) (complaint : Complaint) : Reading α :=
  throw (.misfit ⟨complaint, s.path, mark⟩)

def refuseScalar (s : Spot) (p : Properties) (text : List Char) (style : Style)
    (expected : Expected) : Reading α :=
  match Literal.ofScalar p.tag text style with
  | .ok l => s.complain p.mark (.wrongKind (.literal l) expected)
  | .error tag => s.complain p.mark (.wrongValue (.literal (.text text)) (.tagged tag))

-- Whatever the node is, it is not what was expected.
def refuse (s : Spot) (expected : Expected) : Reading α :=
  match s.node with
  | .scalar p text style => s.refuseScalar p text style expected
  | .sequence p _ => s.complain p.mark (.wrongKind .sequence expected)
  | .mapping p _ => s.complain p.mark (.wrongKind .map expected)
  | .nothing _ | .aliasOf .. => throw (.noDocument .endOfEvents)
  | .cut fault => throw (.noDocument fault)

-- Any scalar is a text, whatever its tag.
def text (s : Spot) (expected : Expected) : Reading (List Char × Mark) :=
  match s.node with
  | .scalar p text _ => return (text, p.mark)
  | _ => s.refuse expected

-- A number is written without quotes, or as a literal block with the tag of numbers.
def mayBeNumber (p : Properties) (style : Style) : Bool :=
  style == .plain || (style == .literal && p.tag.bind CoreTag.ofTag? == some .integer)

def word (s : Spot) (bound : Nat) (expected : Expected) : Reading Nat :=
  match s.node with
  | .scalar p text style =>
    match if mayBeNumber p style then readUnsigned UInt64.size text else none with
    | some n =>
      if n < bound then return n
      else s.complain p.mark (.wrongValue (.literal (.integer n)) expected)
    | none => s.refuse expected
  | _ => s.refuse expected

def duration (s : Spot) : Reading Duration := do
  let (text, mark) ← s.text .duration
  match Duration.parse text with
  | .ok d => return d
  | .error .carryOverflow => throw .durationOverflow
  | .error _ => s.complain mark (.wrongValue (.literal (.text text)) .duration)

def readItems (s : Spot) : Nat → List Node → Reading (List String)
  | _, [] => return []
  | index, item :: rest => do
    let (name, _) ← (ofNode s.document (s.path.item index) item).text .string
    return String.ofList name :: (← s.readItems (index + 1) rest)

-- A list of texts. An empty scalar is the empty list.
def strings (s : Spot) : Reading (List String) :=
  match s.node with
  | .sequence _ items => s.readItems 0 items
  | .nothing _ => return []
  | .scalar _ text _ => if text.isEmpty then return [] else s.refuse .sequence
  | _ => s.refuse .sequence

def readKey (s : Spot) (key : Node) : Reading (String × Path) := do
  let (name, _) ← (ofNode s.document s.path key).text .fieldName
  match key with
  | .scalar .. => return (String.ofList name, s.path.field (some name))
  | _ => return (String.ofList name, s.path.field none)

-- The entries in turn. Unknown ones are passed over, and no field comes twice.
def readEntries (s : Spot) (mark : Mark) (fields : List (String × (Spot → α → Reading α))) :
    List String → List (Node × Node) → α → Reading α
  | _, [], result => return result
  | seen, (key, value) :: rest, result => do
    let (name, path) ← s.readKey key
    match fields.lookup name with
    | none =>
      match value.fault? with
      | some fault => throw (.noDocument fault)
      | none => s.readEntries mark fields seen rest result
    | some read =>
      if seen.contains name then s.complain mark (.repeatedField name)
      else
        let result ← read (ofNode s.document path value) result
        s.readEntries mark fields (name :: seen) rest result

-- A section with all of its fields optional. An empty scalar is an empty section.
def readSection (s : Spot) (expected : Expected) (fields : List (String × (Spot → α → Reading α)))
    (default : α) : Reading α :=
  match s.node with
  | .mapping p entries => s.readEntries p.mark fields [] entries default
  | .nothing _ => return default
  | .scalar _ text _ => if text.isEmpty then return default else s.refuse expected
  | _ => s.refuse expected

end Spot

def Database.fields : List (String × (Spot → Database → Reading Database)) :=
  [("dsn", fun s d => do
      let (text, _) ← s.text .string
      return { d with dsn := String.ofList text }),
    ("max_connections", fun s d => do
      return { d with maxConnections := (← s.word UInt32.size .word32).toUInt32 }),
    ("connect_timeout", fun s d => do
      return { d with connectTimeout := ← s.duration })]

def Cycle.fields : List (String × (Spot → Cycle → Reading Cycle)) :=
  [("timeout", fun s c => do
      return { c with timeout := ← s.duration }),
    ("sink_capacity", fun s c => do
      return { c with sinkCapacity := (← s.word UInt64.size .word64).toUInt64 }),
    ("scrapers", fun s c => do
      return { c with scrapers := ← s.strings })]

def Settings.fields : List (String × (Spot → Settings → Reading Settings)) :=
  [("database", fun s settings => do
      return { settings with database := ← s.readSection .database Database.fields .default }),
    ("scrape", fun s settings => do
      return { settings with cycle := ← s.readSection .cycle Cycle.fields .default })]

-- Faults are met in the order of the text: a field that does not fit comes
-- before a later fault of the text itself.
def Settings.ofDocument (document : Document) : Reading Settings := do
  let top := Spot.ofNode document .top document.root
  let settings ← top.readSection .settings Settings.fields .default
  document.ending.mapError .noDocument
  return settings

end SysExporter.Config
