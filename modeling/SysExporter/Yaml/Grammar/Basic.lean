import SysExporter.Yaml.Event

namespace SysExporter.Yaml

-- The tokens that are still to be read, the events so far, and the names that
-- have been given a meaning: the handles of tags and the anchors.
structure Reader where
  input : TokenStream
  events : Array Event
  handles : List (List Char × List Char)
  anchors : List (List Char × Nat)

abbrev Grammar := ExceptT Fault (StateM Reader)

namespace Grammar

def failAt (mark : Mark) (context : Option (Activity × Mark)) (problem : Problem) : Grammar α :=
  throw (.badSyntax ⟨.parser, problem, mark, context⟩)

-- The next token. At the end of the text it is the end.
def peek : Grammar Token := do
  let input := (← get).input
  match input.tokens, input.ending with
  | token :: _, _ => return token
  | [], .ok mark => return ⟨.streamEnd, mark, mark⟩
  | [], .error fault => throw fault

def skip : Grammar Unit :=
  modify fun r => { r with input := { r.input with tokens := r.input.tokens.drop 1 } }

def emit (event : Event) : Grammar Unit :=
  modify fun r => { r with events := r.events.push event }

def emitEmpty (mark : Mark) : Grammar Unit :=
  emit (.scalar ⟨mark, none, none⟩ [] .plain)

-- A new meaning for a name. The number is that of the names in use so far, so
-- that a name that is used again may share it with another one.
def defineAnchor (name : List Char) : Grammar Nat := do
  let anchors := (← get).anchors
  let number := anchors.length
  modify fun r => { r with anchors := (name, number) :: anchors.filter (·.1 ≠ name) }
  return number

def emitAlias (name : List Char) (mark : Mark) : Grammar Unit := do
  match (← get).anchors.lookup name with
  | some number => emit (.aliasOf mark number)
  | none => throw (.unknownAnchor mark)

-- Every document knows two handles. It may give them another meaning.
def defaultHandles : List (List Char × List Char) :=
  [(['!'], ['!']), (['!', '!'], "tag:yaml.org,2002:".toList)]

def defineHandle (handle beginning : List Char) (mark : Mark) : Grammar Unit := do
  let handles := (← get).handles
  if (handles.lookup handle).isSome then failAt mark none .duplicateTagDirective
  modify fun r => { r with handles := handles ++ [(handle, beginning)] }

def checkVersion (seen : Bool) (major minor : Nat) (mark : Mark) : Grammar Unit := do
  if seen then failAt mark none .duplicateVersion
  if major ≠ 1 || (minor ≠ 1 && minor ≠ 2) then failAt mark none .incompatibleVersion

-- The lines before a document. The flag says whether a version has been seen.
def readDirectives : Nat → Bool → Grammar Unit
  | 0, _ => return ()
  | fuel + 1, seen => do
    let token ← peek
    match token.symbol with
    | .directive (.version major minor) => do
      checkVersion seen major minor token.start
      skip
      readDirectives fuel true
    | .directive (.tag handle beginning) => do
      defineHandle handle beginning token.start
      skip
      readDirectives fuel seen
    | _ => return ()

def resolveTag (start mark : Mark) (name : TagName) : Grammar (List Char) := do
  if name.handle.isEmpty then return name.suffix
  match ((← get).handles ++ defaultHandles).lookup name.handle with
  | some beginning => return beginning ++ name.suffix
  | none => failAt mark (some (.node, start)) .undefinedHandle

def anchor? : Grammar (Option (List Char)) := do
  match (← peek).symbol with
  | .anchorName name => do
    skip
    return some name
  | _ => return none

def tag? : Grammar (Option (TagName × Mark)) := do
  let token ← peek
  match token.symbol with
  | .tag name => do
    skip
    return some (name, token.start)
  | _ => return none

-- An anchor and a tag in either order. Neither has to be there.
def properties : Grammar Properties := do
  let start := (← peek).start
  let before ← anchor?
  let name ← tag?
  let anchor ← match before with
    | some anchor => pure (some anchor)
    | none => if name.isSome then anchor? else pure none
  let _ ← peek
  let tag ← match name with
    | some (name, mark) => some <$> resolveTag start mark name
    | none => pure none
  let number ← match anchor with
    | some anchor => some <$> defineAnchor anchor
    | none => pure none
  return ⟨start, number, tag⟩

end Grammar

end SysExporter.Yaml
