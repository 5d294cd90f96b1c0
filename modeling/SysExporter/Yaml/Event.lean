import SysExporter.Yaml.Token

namespace SysExporter.Yaml

-- What comes before the content of a node, and where the node begins. Anchors
-- are known by number.
structure Properties where
  mark : Mark
  anchor : Option Nat
  tag : Option (List Char)
  deriving DecidableEq, Repr

-- A lone exclamation mark says of a scalar only that it has no tag.
def Properties.ofScalar (p : Properties) : Properties :=
  { p with tag := p.tag.filter (· ≠ ['!']) }

-- The nodes of a document in the order in which they begin and end.
inductive Event where
  | scalar (p : Properties) (text : List Char) (style : Style)
  | aliasOf (mark : Mark) (anchor : Nat)
  | sequenceStart (p : Properties)
  | mappingStart (p : Properties)
  | collectionEnd
  | nothing (mark : Mark)
  deriving DecidableEq, Repr

-- The first document of a text, up to the fault if there is one, and whether
-- nothing follows it.
structure EventStream where
  events : List Event
  fault : Option Fault
  isOnly : Bool
  deriving DecidableEq, Repr

end SysExporter.Yaml
