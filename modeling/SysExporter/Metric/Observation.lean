import SysExporter.Binary64.Basic
import SysExporter.Metric.Descriptor

namespace SysExporter.Metric

-- One value of a series, with one label value for each label name.
structure Observation where
  descriptor : Descriptor
  value : Binary64
  labelValues : List String
  arity : labelValues.length = descriptor.labels.length
  deriving DecidableEq

-- The number of label values is not that of the label names.
structure ArityFault where
  metric : String
  expected : Nat
  actual : Nat
  deriving DecidableEq, Repr

def ArityFault.message (fault : ArityFault) : String :=
  let { metric, expected, actual } := fault
  s!"{metric}: expected {expected} label values, got {actual}"

def Observation.bind (descriptor : Descriptor) (value : Binary64) (labelValues : List String) :
    Except ArityFault Observation :=
  if h : labelValues.length = descriptor.labels.length then
    .ok ⟨descriptor, value, labelValues, h⟩
  else .error ⟨descriptor.name, descriptor.labels.length, labelValues.length⟩

def Observation.labels (o : Observation) : List (String × String) :=
  o.descriptor.labels.zip o.labelValues

-- Values are compared as numbers, so an observation of NaN differs from itself.
instance : BEq Observation where
  beq a b := a.descriptor == b.descriptor && a.value == b.value && a.labelValues == b.labelValues

end SysExporter.Metric
