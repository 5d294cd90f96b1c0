import SysExporter.CommandLine.Report

open SysExporter CommandLine

def readFile? (path : String) : IO (Option Text.Bytes) := do
  try
    let bytes ← IO.FS.readBinFile path
    return some bytes.toList
  catch _ => return none

def readVariable? (name : String) : IO (Option Text.Bytes) := do
  return (← IO.getEnv name).map fun value => Text.encodeUtf8 value.toList

-- The variables that a command line and the address of a database may name.
def readVariables (names : List String) : IO Variables := do
  let values ← names.mapM fun name => do return (name, ← readVariable? name)
  return fun name => (values.lookup name).join

def placeholderNames (text : String) : List String :=
  (Config.pieces text.toList).filterMap fun
    | .hole p => some (String.ofList p.name)
    | .plain _ => none

def fileDsn? (file : Option Text.Bytes) : Option String := do
  let text ← (Text.decodeUtf8 (← file)).toOption
  let settings ← (Config.Settings.ofDocument (Yaml.Document.ofText text)).toOption
  return settings.database.dsn

def optionVariables : List String :=
  [ValueOption.config, .dsn, .timeout].filterMap ValueOption.variable?

-- No database server is within reach: every run with one ends with that fault.
def main (arguments : List String) : IO UInt32 := do
  let known ← readVariables optionVariables
  let request? := (Request.parse known arguments).toOption
  let file ← match request?.bind Request.config? with
    | some path => readFile? path
    | none => pure none
  let dsns := (request?.bind Request.dsn?).toList ++ (fileDsn? file).toList
  let given ← readVariables (optionVariables ++ dsns.flatMap placeholderNames)
  let outcome := run given (fun _ => file) .unreachable (← IO.monoNanosNow) arguments
  (← IO.getStdout).putStr outcome.output
  (← IO.getStderr).putStr outcome.errorText
  return outcome.exitCode
