import SysExporter.Metric.Observation

namespace SysExporter.Metric

-- An observation within its family, under the kind of its own descriptor.
structure Sample where
  labels : List (String × String)
  kind : ValueType
  value : Binary64
  deriving DecidableEq, Repr

def Sample.ofObservation (o : Observation) : Sample :=
  ⟨o.labels, o.descriptor.kind, o.value⟩

-- All observations of one name. Help and kind are those of the first of them.
structure Family where
  name : String
  help : String
  kind : ValueType
  samples : List Sample
  deriving DecidableEq, Repr

def Family.singleton (o : Observation) : Family :=
  ⟨o.descriptor.name, o.descriptor.help, o.descriptor.kind, [.ofObservation o]⟩

def Family.push (family : Family) (sample : Sample) : Family :=
  { family with samples := family.samples ++ [sample] }

-- An observation goes to the end of its family, or opens one after all others.
def insertObservation (o : Observation) : List Family → List Family
  | [] => [.singleton o]
  | family :: rest =>
    if family.name = o.descriptor.name then family.push (.ofObservation o) :: rest
    else family :: insertObservation o rest

-- Families stand in the order of their first observation.
def families (observations : List Observation) : List Family :=
  observations.foldl (fun grouped o => insertObservation o grouped) []

end SysExporter.Metric
