namespace SysExporter.Metric

-- How a series is to be read: it only grows, it moves both ways, or neither is promised.
inductive ValueType where
  | counter
  | gauge
  | untyped
  deriving DecidableEq, Repr

def ValueType.name : ValueType → String
  | .counter => "counter"
  | .gauge => "gauge"
  | .untyped => "untyped"

-- What identifies a series and stays the same for all its values.
structure Descriptor where
  name : String
  help : String
  labels : List String
  kind : ValueType
  deriving DecidableEq, Repr

def root : String := "mysql"

-- The parts that are not empty, joined by underscores. Without a last part
-- there is no name at all.
def qualifiedName (space subsystem name : String) : String :=
  if name = "" then ""
  else "_".intercalate ([space, subsystem, name].filter (· ≠ ""))

def Descriptor.counter (subsystem name help : String) (labels : List String) : Descriptor :=
  ⟨qualifiedName root subsystem name, help, labels, .counter⟩

def Descriptor.gauge (subsystem name help : String) (labels : List String) : Descriptor :=
  ⟨qualifiedName root subsystem name, help, labels, .gauge⟩

end SysExporter.Metric
