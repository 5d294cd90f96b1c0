import SysExporter.CommandLine.Options
import SysExporter.Config.Placeholder
import SysExporter.Text.Utf8

namespace SysExporter.CommandLine

open Text

-- What a command line asks for. Scrapers come in the order in which they are named.
structure Arguments where
  config : Option String
  dsn : Option String
  timeout : Option Duration
  scrapers : List String
  list : Bool
  deriving DecidableEq

-- A request for information ends the reading of a command line.
inductive Request where
  | run (arguments : Arguments)
  | help
  | version
  deriving DecidableEq

def Request.config? : Request → Option String
  | .run a => a.config
  | .help | .version => none

def Request.dsn? : Request → Option String
  | .run a => a.dsn
  | .help | .version => none

-- The variables around a program, readable or not.
abbrev Variables := String → Option Bytes

-- A variable that is not readable counts as one that is not set.
def Variables.environment (given : Variables) : Config.Environment :=
  fun name => ((given name).bind fun bytes => (decodeUtf8 bytes).toOption).map String.ofList

namespace Arguments

def empty : Arguments := ⟨none, none, none, [], false⟩

def readTimeout (value : String) : Except UsageFault Duration :=
  match Duration.parseTimeout value with
  | .ok d => .ok d
  | .error .carryOverflow => .error .durationOverflow
  | .error fault => .error (.timeoutRefused value fault)

-- Whether an option is given that may be given once only.
def has (a : Arguments) : ValueOption → Bool
  | .config => a.config.isSome
  | .dsn => a.dsn.isSome
  | .timeout => a.timeout.isSome
  | .scraper => false

def set (a : Arguments) (o : ValueOption) (value : String) : Except UsageFault Arguments :=
  match o with
  | .config => .ok { a with config := some value }
  | .dsn => .ok { a with dsn := some value }
  | .timeout => do return { a with timeout := some (← readTimeout value) }
  | .scraper => .ok { a with scrapers := a.scrapers ++ [value] }

def give (a : Arguments) (o : ValueOption) (value : String) : Except UsageFault Arguments :=
  if a.has o then .error (.usedTwice (.value o)) else a.set o value

end Arguments

-- What has been read, the option that comes last with its value, which is not
-- looked at before it has to be, and whether options have come to an end.
structure Progress where
  arguments : Arguments
  pending : Option (ValueOption × Option String)
  isOver : Bool

inductive Step where
  | more (p : Progress)
  | done (request : Request)

namespace Progress

def settle (p : Progress) : Except UsageFault Progress :=
  match p.pending with
  | none => .ok p
  | some (o, none) => .error (.valueMissing o)
  | some (o, some value) => do
    return { p with arguments := ← p.arguments.give o value, pending := none }

-- A switch, after the pending option.
def turnOn (p : Progress) (s : Switch) : Except UsageFault Step := do
  let p ← p.settle
  match s with
  | .help => return .done .help
  | .version => return .done .version
  | .list =>
    if p.arguments.list then throw (.usedTwice (.alone .list))
    else return .more { p with arguments := { p.arguments with list := true } }

-- An option with the value that is attached to it, or with one to come.
def begin (p : Progress) (o : ValueOption) (value : Option String) : Except UsageFault Step := do
  let p ← p.settle
  match value with
  | some text => return .more { p with arguments := ← p.arguments.give o text }
  | none => return .more { p with pending := some (o, none) }

def readLong (p : Progress) (name : String) (value : Option String) : Except UsageFault Step :=
  match AnyOption.ofLong? name, value with
  | none, _ => .error (.unexpectedArgument ("--" ++ name))
  | some (.value o), value => p.begin o value
  | some (.alone s), some text => .error (.valueUnwanted text s)
  | some (.alone s), none => p.turnOn s

-- Letters after one hyphen. What follows an option that takes a value is its
-- value, after an equals sign or without one.
def readShorts (p : Progress) : List Char → Except UsageFault Step
  | [] => .ok (.more p)
  | c :: rest =>
    match AnyOption.ofShort? c with
    | none => .error (.unexpectedArgument (String.ofList ['-', c]))
    | some (.value o) =>
      match rest with
      | [] => p.begin o none
      | '=' :: value => p.begin o (some (String.ofList value))
      | value => p.begin o (some (String.ofList value))
    | some (.alone s) => do
      match ← p.turnOn s with
      | .more p => p.readShorts rest
      | done => return done

-- An argument that is no option belongs to the option before it.
def readValue (p : Progress) (text : String) : Except UsageFault Step :=
  match p.pending with
  | some (o, none) => .ok (.more { p with pending := some (o, some text) })
  | _ => .error (.unexpectedArgument text)

def read (p : Progress) (text : String) : Except UsageFault Step :=
  if p.isOver then .error (.unexpectedArgument text)
  else match text.toList with
    | ['-', '-'] => .ok (.more { p with isOver := true })
    | '-' :: '-' :: long =>
      let name := String.ofList (long.takeWhile (· ≠ '='))
      match long.dropWhile (· ≠ '=') with
      | [] => p.readLong name none
      | _ :: value => p.readLong name (some (String.ofList value))
    | '-' :: c :: rest => p.readShorts (c :: rest)
    | _ => p.readValue text

-- Variables come after the command line and do not override it.
def readVariable (given : Variables) (a : Arguments) (o : ValueOption) :
    Except UsageFault Arguments :=
  if a.has o then .ok a
  else match o.variable?.bind given with
    | none => .ok a
    | some bytes =>
      match decodeUtf8 bytes with
      | .error _ => .error .notText
      | .ok text => a.set o (String.ofList text)

def finish (p : Progress) (given : Variables) : Except UsageFault Request := do
  let p ← p.settle
  .run <$> [ValueOption.config, .dsn, .timeout].foldlM (readVariable given) p.arguments

def readAll (given : Variables) : List String → Progress → Except UsageFault Request
  | [], p => p.finish given
  | text :: rest, p => do
    match ← p.read text with
    | .more p => readAll given rest p
    | .done request => return request

end Progress

def Request.parse (given : Variables) (arguments : List String) : Except UsageFault Request :=
  Progress.readAll given arguments ⟨.empty, none, false⟩

end SysExporter.CommandLine
