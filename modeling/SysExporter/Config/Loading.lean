import SysExporter.Config.Reading
import SysExporter.Text.Utf8

namespace SysExporter.Config

open Text

inductive LoadFault where
  | missing
  | notText
  | noDocument (fault : Yaml.Fault)
  | misfit (m : Misfit)
  | durationOverflow
  | rejected (r : Rejection)
  deriving DecidableEq, Repr

def LoadFault.message : LoadFault → String
  | .missing => "failed to read config file: No such file or directory (os error 2)"
  | .notText => "failed to read config file: stream did not contain valid UTF-8"
  | .noDocument fault => "failed to parse YAML config: " ++ fault.debug
  | .misfit m => "failed to parse YAML config: " ++ m.message
  | .durationOverflow => Duration.ReadFault.carryOverflow.message
  | .rejected r => r.message

def LoadFault.debug : LoadFault → String
  | .missing =>
    "IoError(Os \x7b code: 2, kind: NotFound, message: \"No such file or directory\" \x7d)"
  | .notText =>
    "IoError(Error \x7b kind: InvalidData, message: " ++
      "\"stream did not contain valid UTF-8\" \x7d)"
  | .noDocument fault => "ParseError(" ++ fault.debug ++ ")"
  | .misfit m => "ParseError(" ++ m.debug ++ ")"
  | .durationOverflow => Duration.ReadFault.carryOverflow.message
  | .rejected r => r.debug

def ReadingFault.toLoadFault : ReadingFault → LoadFault
  | .noDocument fault => .noDocument fault
  | .misfit m => .misfit m
  | .durationOverflow => .durationOverflow

-- The settings of a file. The file is given by its bytes, or is not there.
-- Settings that break a rule are no settings.
def Settings.load (env : Environment) (file : Option Bytes) : Except LoadFault Settings := do
  match file with
  | none => throw .missing
  | some bytes =>
    match decodeUtf8 bytes with
    | .error _ => throw .notText
    | .ok text =>
      let document := Yaml.Document.ofText text
      let settings ← (Settings.ofDocument document).mapError ReadingFault.toLoadFault
      (settings.validate env).mapError .rejected
      return settings

end SysExporter.Config
