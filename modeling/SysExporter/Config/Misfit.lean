import SysExporter.Binary64.Text
import SysExporter.Text.Quoted
import SysExporter.Yaml.Document
import SysExporter.Yaml.Literal

namespace SysExporter.Config

open Text Yaml

-- What a file holds where something else was expected.
inductive Found where
  | literal (l : Literal)
  | sequence
  | map
  deriving DecidableEq, Repr

-- A whole float is written with one decimal place.
def floatText (x : Binary64) : String :=
  let text := x.toText
  if x.isNaN || x.isInfinite || text.contains '.' then text else text ++ ".0"

def wideText (n : Int) : String :=
  s!"integer `{n}` as " ++ if 0 ≤ n then "u128" else "i128"

def Found.text : Found → String
  | .literal .null => "unit value"
  | .literal (.boolean b) => s!"boolean `{b}`"
  | .literal (.integer n) => s!"integer `{n}`"
  | .literal (.wide n) => wideText n
  | .literal (.float x) => "floating point `" ++ floatText x ++ "`"
  | .literal (.text s) => "string " ++ quote (String.ofList s)
  | .sequence => "sequence"
  | .map => "map"

-- What was expected: a section, a kind of field, or a word of a tag.
inductive Expected where
  | settings
  | database
  | cycle
  | fieldName
  | string
  | word32
  | word64
  | duration
  | sequence
  | tagged (tag : CoreTag)
  deriving DecidableEq, Repr

def Expected.text : Expected → String
  | .settings => "struct AppConfig"
  | .database => "struct DatabaseConfig"
  | .cycle => "struct ScrapeConfig"
  | .fieldName => "field identifier"
  | .string => "a string"
  | .word32 => "u32"
  | .word64 => "usize"
  | .duration => "a duration"
  | .sequence => "a sequence"
  | .tagged .boolean => "a boolean"
  | .tagged .integer => "an integer"
  | .tagged .float => "a float"
  | .tagged .null => "null"

-- What does not fit: the kind of a node, its value, or a field that comes twice.
inductive Complaint where
  | wrongKind (found : Found) (expected : Expected)
  | wrongValue (found : Found) (expected : Expected)
  | repeatedField (name : String)
  deriving DecidableEq, Repr

def Complaint.text : Complaint → String
  | .wrongKind found expected => "invalid type: " ++ found.text ++ ", expected " ++ expected.text
  | .wrongValue found expected => "invalid value: " ++ found.text ++ ", expected " ++ expected.text
  | .repeatedField name => s!"duplicate field `{name}`"

-- The way from the top of a file to a node, in names and numbers.
abbrev Path := List Char

namespace Path

def top : Path := []

-- A key that is no plain text is shown as a question mark.
def field (path : Path) (key : Option (List Char)) : Path :=
  (if path.isEmpty then [] else path ++ ['.']) ++ key.getD ['?']

def item (path : Path) (index : Nat) : Path :=
  path ++ s!"[{index}]".toList

end Path

-- A complaint, and which node it is about.
structure Misfit where
  complaint : Complaint
  path : Path
  mark : Mark
  deriving DecidableEq, Repr

-- The complaint with its path, if there is one.
def Misfit.headline (m : Misfit) : String :=
  if m.path.isEmpty then m.complaint.text else String.ofList m.path ++ ": " ++ m.complaint.text

-- The very beginning of a file is not worth mentioning.
def Misfit.message (m : Misfit) : String :=
  if m.mark.isStart then m.headline else m.headline ++ " at " ++ m.mark.text

def Misfit.debug (m : Misfit) : String :=
  "Error(" ++ quote m.headline ++
    s!", line: {m.mark.line + 1}, column: {m.mark.column + 1})"

-- Why a file does not give settings. The sum of a duration may overflow, which
-- nobody reports.
inductive ReadingFault where
  | noDocument (fault : Yaml.Fault)
  | misfit (m : Misfit)
  | durationOverflow
  deriving DecidableEq, Repr

end SysExporter.Config
