import SysExporter.Yaml.Grammar.Node
import SysExporter.Yaml.Lexer.Reading

namespace SysExporter.Yaml

namespace Grammar

-- Symbols before which an explicit document has no content.
def endsDocument : Symbol → Bool
  | .directive _ | .documentStart | .documentEnd | .streamEnd => true
  | _ => false

def readContent (fuel : Nat) : Grammar Unit := do
  let token ← peek
  if endsDocument token.symbol then emitEmpty token.start else readNode fuel true false

def readExplicit (fuel : Nat) : Grammar Unit := do
  readDirectives fuel false
  let token ← peek
  if token.symbol ≠ .documentStart then failAt token.start none .noDocumentStart
  skip
  readContent fuel

-- The first document of a text. A text without any has nothing in it.
def readDocument (fuel : Nat) : Grammar Unit := do
  let token ← peek
  match token.symbol with
  | .streamEnd => emit (.nothing token.start)
  | .directive _ | .documentStart => readExplicit fuel
  | _ => readNode fuel true false
  if (← peek).symbol == .documentEnd then skip

-- No further document follows, and the text has no fault.
def isAtEnd (input : TokenStream) : Bool :=
  input.tokens.all (·.symbol == .documentEnd) && input.ending.isOk

end Grammar

-- One token gives rise to a few calls at most, none inside of which it is left.
def EventStream.ofTokens (input : TokenStream) : EventStream :=
  let fuel := 4 * (input.tokens.length + 2)
  let (result, reader) := (ExceptT.run (Grammar.readDocument fuel)).run ⟨input, #[], [], []⟩
  match result with
  | .ok () => ⟨reader.events.toList, none, Grammar.isAtEnd reader.input⟩
  | .error fault => ⟨reader.events.toList, some fault, true⟩

end SysExporter.Yaml
