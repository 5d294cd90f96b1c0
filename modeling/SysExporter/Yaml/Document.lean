import SysExporter.Yaml.Grammar.Document
import SysExporter.Yaml.Node

namespace SysExporter.Yaml

-- A collection that has begun: what it holds so far, last first, and in a
-- mapping the key that waits for its value.
inductive Frame where
  | sequence (p : Properties) (items : List Node)
  | mapping (p : Properties) (entries : List (Node × Node)) (key : Option Node)

namespace Frame

def add (node : Node) : Frame → Frame
  | .sequence p items => .sequence p (node :: items)
  | .mapping p entries none => .mapping p entries (some node)
  | .mapping p entries (some key) => .mapping p ((key, node) :: entries) none

def close : Frame → Node
  | .sequence p items => .sequence p items.reverse
  | .mapping p entries _ => .mapping p entries.reverse

-- The collection ends at a fault.
def cutOff (fault : Fault) : Frame → Frame
  | .sequence p items => .sequence p (.cut fault :: items)
  | .mapping p entries none => .mapping p ((.cut fault, .cut fault) :: entries) none
  | .mapping p entries (some key) => .mapping p ((key, .cut fault) :: entries) none

end Frame

-- The collections that have begun, innermost first, or the finished tree.
structure Builder where
  frames : List Frame
  root : Option Node

namespace Builder

def add (node : Node) (b : Builder) : Builder :=
  match b.frames with
  | [] => { b with root := some node }
  | frame :: rest => { b with frames := frame.add node :: rest }

def step (b : Builder) : Event → Builder
  | .scalar p text style => b.add (.scalar p text style)
  | .aliasOf mark anchor => b.add (.aliasOf mark anchor)
  | .nothing mark => b.add (.nothing mark)
  | .sequenceStart p => { b with frames := .sequence p [] :: b.frames }
  | .mappingStart p => { b with frames := .mapping p [] none :: b.frames }
  | .collectionEnd =>
    match b.frames with
    | [] => b
    | frame :: rest => { b with frames := rest }.add frame.close

def closeAll (fault : Fault) : Builder → Node
  | ⟨frames, root⟩ =>
    frames.foldl (fun inner frame => ((frame.add inner).cutOff fault).close)
      (root.getD (.cut fault))

end Builder

-- A tree, what its aliases stand for, the fault of the text after it, and
-- whether nothing follows it.
structure Document where
  root : Node
  fault : Option Fault
  isOnly : Bool

namespace Document

-- A fault inside the tree cuts it off. One that comes after it does not.
def ofEvents (stream : EventStream) : Document :=
  let builder := stream.events.foldl Builder.step ⟨[], none⟩
  let fault := stream.fault.getD .endOfEvents
  match builder.frames, builder.root with
  | [], some root => ⟨root, stream.fault, stream.isOnly⟩
  | frames, _ => ⟨Builder.closeAll fault ⟨frames, none⟩, some fault, stream.isOnly⟩

def ofText (text : List Char) : Document :=
  ofEvents (EventStream.ofTokens (TokenStream.ofText text))

-- The node that an alias stands for. Of several with its number the last counts.
def target? (d : Document) (anchor : Nat) : Option Node :=
  (d.root.anchored.filter (·.1 == anchor)).getLast?.map (·.2)

-- What is wrong with the text apart from its tree.
def ending (d : Document) : Except Fault Unit :=
  match d.fault with
  | some fault => throw fault
  | none => if d.isOnly then return () else throw .manyDocuments

end Document

end SysExporter.Yaml
