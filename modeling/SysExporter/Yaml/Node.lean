import SysExporter.Yaml.Event

namespace SysExporter.Yaml

-- The content of a document as a tree. Where the text has a fault the tree is
-- cut off: the nodes around the cut hold what comes before it.
inductive Node where
  | scalar (p : Properties) (text : List Char) (style : Style)
  | aliasOf (mark : Mark) (anchor : Nat)
  | sequence (p : Properties) (items : List Node)
  | mapping (p : Properties) (entries : List (Node × Node))
  | nothing (mark : Mark)
  | cut (fault : Fault)

namespace Node

mutual

-- The fault at which the node is cut off.
def fault? : Node → Option Fault
  | .sequence _ items => itemsFault? items
  | .mapping _ entries => entriesFault? entries
  | .cut fault => some fault
  | .scalar .. | .aliasOf .. | .nothing _ => none

def itemsFault? : List Node → Option Fault
  | [] => none
  | item :: rest => item.fault? <|> itemsFault? rest

def entriesFault? : List (Node × Node) → Option Fault
  | [] => none
  | (key, value) :: rest => key.fault? <|> value.fault? <|> entriesFault? rest

end

def numbered (p : Properties) (node : Node) : List (Nat × Node) :=
  (p.anchor.map (·, node)).toList

mutual

-- The nodes with an anchor, in the order in which they begin.
def anchored : Node → List (Nat × Node)
  | .scalar p text style => numbered p (.scalar p text style)
  | .sequence p items => numbered p (.sequence p items) ++ itemsAnchored items
  | .mapping p entries => numbered p (.mapping p entries) ++ entriesAnchored entries
  | .aliasOf .. | .nothing _ | .cut _ => []

def itemsAnchored : List Node → List (Nat × Node)
  | [] => []
  | item :: rest => item.anchored ++ itemsAnchored rest

def entriesAnchored : List (Node × Node) → List (Nat × Node)
  | [] => []
  | (key, value) :: rest => key.anchored ++ value.anchored ++ entriesAnchored rest

end

mutual

def size : Node → Nat
  | .sequence _ items => itemsSize items + 2
  | .mapping _ entries => entriesSize entries + 2
  | .scalar .. | .aliasOf .. | .nothing _ => 1
  | .cut _ => 0

def itemsSize : List Node → Nat
  | [] => 0
  | item :: rest => item.size + itemsSize rest

def entriesSize : List (Node × Node) → Nat
  | [] => 0
  | (key, value) :: rest => key.size + value.size + entriesSize rest

end

end Node

end SysExporter.Yaml
