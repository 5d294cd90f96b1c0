import SysExporter.Binary64.Text
import SysExporter.Metric.Family

namespace SysExporter.Metric

-- Why a list of families has no text: one has no name, or one promises nothing
-- about its values.
inductive RenderFault where
  | unnamed
  | untyped
  deriving DecidableEq, Repr

def escapeHelpChar (c : Char) : List Char :=
  if c = '\\' then ['\\', '\\'] else if c = '\n' then ['\\', 'n'] else [c]

def escapeLabelChar (c : Char) : List Char :=
  if c = '"' then ['\\', '"'] else escapeHelpChar c

def escapeHelp (text : List Char) : List Char :=
  text.flatMap escapeHelpChar

def escapeLabel (text : List Char) : List Char :=
  text.flatMap escapeLabelChar

def helpLine (name help : List Char) : List Char :=
  "# HELP ".toList ++ name ++ ' ' :: escapeHelp help ++ ['\n']

def typeLine (name : List Char) (kind : ValueType) : List Char :=
  "# TYPE ".toList ++ name ++ ' ' :: kind.name.toList ++ ['\n']

def labelText (label : String × String) : List Char :=
  label.1.toList ++ "=\"".toList ++ escapeLabel label.2.toList ++ ['"']

-- The labels between braces. A series without labels has no braces either.
def labelsText : List (String × String) → List Char
  | [] => []
  | labels => '\x7b' :: [','].intercalate (labels.map labelText) ++ ['\x7d']

-- A sample is printed as one of the kind of its family. One of another kind
-- has no such value and shows zero.
def Family.shown (family : Family) (sample : Sample) : Binary64 :=
  if sample.kind = family.kind then sample.value else .zero

def sampleLine (name : List Char) (labels : List (String × String)) (value : Binary64) :
    List Char :=
  name ++ labelsText labels ++ ' ' :: value.text ++ ['\n']

def Family.header (family : Family) : List Char :=
  (if family.help = "" then [] else helpLine family.name.toList family.help.toList) ++
    typeLine family.name.toList family.kind

def Family.text (family : Family) : List Char :=
  family.header ++ family.samples.flatMap fun sample =>
    sampleLine family.name.toList sample.labels (family.shown sample)

def Family.check (family : Family) : Except RenderFault Unit :=
  if family.name = "" then .error .unnamed
  else if family.kind = .untyped then .error .untyped
  else .ok ()

-- The first family that cannot be written decides the fault.
def renderFamilies : List Family → Except RenderFault (List Char)
  | [] => .ok []
  | family :: rest => do
    family.check
    let text ← renderFamilies rest
    return family.text ++ text

def render (observations : List Observation) : Except RenderFault String :=
  String.ofList <$> renderFamilies (families observations)

end SysExporter.Metric
