import SysExporter.Yaml.Grammar.Basic

namespace SysExporter.Yaml

namespace Grammar

def endsEntry : Symbol → Bool
  | .blockEntry | .blockEnd => true
  | _ => false

def endsPart : Symbol → Bool
  | .key | .value | .blockEnd => true
  | _ => false

def endsIndentlessEntry (symbol : Symbol) : Bool :=
  symbol == .blockEntry || endsPart symbol

def endsFlowItem : Symbol → Bool
  | .flowEntry | .flowSequenceEnd => true
  | _ => false

def endsFlowValue : Symbol → Bool
  | .flowEntry | .flowMappingEnd => true
  | _ => false

def readComma (isFirst : Bool) (activity : Activity) (start : Mark) (problem : Problem) :
    Grammar Unit := do
  if !isFirst then
    let token ← peek
    if token.symbol == .flowEntry then skip else failAt token.start (some (activity, start)) problem

mutual

-- A node with its properties. In block style it may be a block collection, and
-- as the value of a key also a sequence that is not indented.
def readNode (fuel : Nat) (isBlock mayBeIndentless : Bool) : Grammar Unit :=
  match fuel with
  | 0 => return ()
  | fuel + 1 => do
    let first ← peek
    match first.symbol with
    | .aliasName name => do
      emitAlias name first.start
      skip
    | _ => do
      let p ← properties
      let token ← peek
      match token.symbol with
      | .scalar text style => do
        emit (.scalar p.ofScalar text style)
        skip
      | .flowSequenceStart => do
        emit (.sequenceStart p)
        skip
        readFlowSequence fuel token.start true
      | .flowMappingStart => do
        emit (.mappingStart p)
        skip
        readFlowMapping fuel token.start true
      | symbol =>
        if mayBeIndentless && symbol == .blockEntry then
          emit (.sequenceStart p)
          readIndentless fuel
        else if isBlock && symbol == .blockSequenceStart then
          emit (.sequenceStart p)
          skip
          readBlockSequence fuel token.start
        else if isBlock && symbol == .blockMappingStart then
          emit (.mappingStart p)
          skip
          readBlockMapping fuel token.start
        else if p.anchor.isSome || p.tag.isSome then emit (.scalar p [] .plain)
        else
          failAt token.start (some (if isBlock then .blockNode else .flowNode, p.mark))
            .noNodeContent

def readBlockSequence (fuel : Nat) (start : Mark) : Grammar Unit :=
  match fuel with
  | 0 => return ()
  | fuel + 1 => do
    let token ← peek
    match token.symbol with
    | .blockEntry => do
      skip
      if endsEntry (← peek).symbol then emitEmpty token.stop else readNode fuel true false
      readBlockSequence fuel start
    | .blockEnd => do
      emit .collectionEnd
      skip
    | _ => failAt token.start (some (.blockCollection, start)) .noDash

def readIndentless (fuel : Nat) : Grammar Unit :=
  match fuel with
  | 0 => return ()
  | fuel + 1 => do
    let token ← peek
    match token.symbol with
    | .blockEntry => do
      skip
      if endsIndentlessEntry (← peek).symbol then emitEmpty token.stop
      else readNode fuel true false
      readIndentless fuel
    | _ => emit .collectionEnd

-- Keys and values in turn. Either of them may be missing.
def readBlockMapping (fuel : Nat) (start : Mark) : Grammar Unit :=
  match fuel with
  | 0 => return ()
  | fuel + 1 => do
    let token ← peek
    match token.symbol with
    | .key => do
      skip
      if endsPart (← peek).symbol then emitEmpty token.stop else readNode fuel true true
      readBlockValue fuel
      readBlockMapping fuel start
    | .blockEnd => do
      emit .collectionEnd
      skip
    | _ => failAt token.start (some (.blockMapping, start)) .noKey

def readBlockValue (fuel : Nat) : Grammar Unit :=
  match fuel with
  | 0 => return ()
  | fuel + 1 => do
    let token ← peek
    match token.symbol with
    | .value => do
      skip
      if endsPart (← peek).symbol then emitEmpty token.stop else readNode fuel true true
    | _ => emitEmpty token.start

def readFlowSequence (fuel : Nat) (start : Mark) (isFirst : Bool) : Grammar Unit :=
  match fuel with
  | 0 => return ()
  | fuel + 1 => do
    if (← peek).symbol == .flowSequenceEnd then
      emit .collectionEnd
      skip
    else
      readComma isFirst .flowSequence start .noCommaOrBracket
      let token ← peek
      match token.symbol with
      | .flowSequenceEnd => do
        emit .collectionEnd
        skip
      | .key => do
        emit (.mappingStart ⟨token.start, none, none⟩)
        skip
        readSinglePair fuel
        readFlowSequence fuel start false
      | _ => do
        readNode fuel false false
        readFlowSequence fuel start false

-- A mapping of one entry inside a sequence. Where its key is missing the next
-- token is passed over.
def readSinglePair (fuel : Nat) : Grammar Unit :=
  match fuel with
  | 0 => return ()
  | fuel + 1 => do
    let token ← peek
    if token.symbol == .value || endsFlowItem token.symbol then
      skip
      emitEmpty token.stop
    else readNode fuel false false
    if (← peek).symbol == .value then
      skip
      if endsFlowItem (← peek).symbol then emitEmpty (← peek).start
      else readNode fuel false false
    else emitEmpty (← peek).start
    let _ ← peek
    emit .collectionEnd

def readFlowMapping (fuel : Nat) (start : Mark) (isFirst : Bool) : Grammar Unit :=
  match fuel with
  | 0 => return ()
  | fuel + 1 => do
    if (← peek).symbol == .flowMappingEnd then
      emit .collectionEnd
      skip
    else
      readComma isFirst .flowMapping start .noCommaOrBrace
      let token ← peek
      match token.symbol with
      | .flowMappingEnd => do
        emit .collectionEnd
        skip
      | .key => do
        skip
        let next ← peek
        if next.symbol == .value || endsFlowValue next.symbol then emitEmpty next.start
        else readNode fuel false false
        readFlowValue fuel
        readFlowMapping fuel start false
      | _ => do
        readNode fuel false false
        emitEmpty (← peek).start
        readFlowMapping fuel start false

def readFlowValue (fuel : Nat) : Grammar Unit :=
  match fuel with
  | 0 => return ()
  | fuel + 1 => do
    if (← peek).symbol == .value then
      skip
      let next ← peek
      if endsFlowValue next.symbol then emitEmpty next.start else readNode fuel false false
    else emitEmpty (← peek).start

end

end Grammar

end SysExporter.Yaml
