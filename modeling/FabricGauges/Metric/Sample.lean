import FabricGauges.Metric.Basic
import FabricGauges.Metric.Value

/-!
# Samples

A sample sets the series of one family that its labels identify. A value that is absent gives no
sample.
-/

namespace FabricGauges

/-- A value for the series of a family with the given label values. -/
structure Sample where
  metric : Metric
  labels : List String
  value : Double
deriving DecidableEq

namespace Sample

/-- An integer as a sample value. -/
def ofInt64 (i : Int64) : Double := Double.ofInt i.toInt

/-- The sample of a value that may be absent. -/
def observe (metric : Metric) (labels : List String) (value : Option Double) : List Sample :=
  (value.map (Sample.mk metric labels)).toList

/-- The sample of an integer that may be absent. -/
def observeInt (metric : Metric) (labels : List String) (value : Option Int64) : List Sample :=
  observe metric labels (value.map ofInt64)

/-- The sample that says a thing is there, if all its labels are known. -/
def presence (metric : Metric) (labels : Option (List String)) : List Sample :=
  observe metric (labels.getD []) (labels.map fun _ => .one)

/-- The sample of a count. -/
def count (metric : Metric) (labels : List String) (n : Nat) : Sample :=
  ⟨metric, labels, .ofNat n⟩

end Sample

end FabricGauges
