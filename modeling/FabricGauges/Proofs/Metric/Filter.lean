import FabricGauges.Proofs.Metric.Identity

/-!
# Samples of one metric

Which samples of a record are of one metric: those of the parts that belong to it, and none of the
others.
-/

namespace FabricGauges

variable {m m' : Metric} {labels : List String}

/-- What one family observes is nothing in another one. -/
theorem filter_observe_of_ne (h : m' ≠ m) (value : Option Double) :
    (Sample.observe m' labels value).filter (·.metric = m) = [] := by
  cases value with
  | none => rfl
  | some v => exact List.filter_cons_of_neg (by simpa using h)

theorem filter_presence_of_ne (h : m' ≠ m) (found : Option (List String)) :
    (Sample.presence m' found).filter (·.metric = m) = [] := filter_observe_of_ne h _

/-- Things that give nothing to a family give nothing together. -/
theorem filter_flatMap_of_forall {α : Type} {as : List α} {f : α → List Sample}
    (h : ∀ a, (f a).filter (·.metric = m) = []) : (as.flatMap f).filter (·.metric = m) = [] := by
  rw [List.filter_flatMap]
  exact List.flatMap_eq_nil_iff.2 fun a _ => h a

/-- Traffic counters give nothing to a family that is none of theirs. -/
theorem filter_traffic_of_ne {c : Carrier} (h : ∀ t, .traffic c t ≠ m) (t : TrafficCounters) :
    (t.samples c labels).filter (·.metric = m) = [] :=
  filter_flatMap_of_forall fun t => filter_observe_of_ne (h t) _

/-- Samples of one resource are of no family about another. -/
theorem AllOf.filter_eq_nil {resource : Resource} {samples : List Sample}
    (h : AllOf resource labels samples) (hm : m.resource ≠ resource) :
    samples.filter (·.metric = m) = [] := by
  refine List.filter_eq_nil_iff.2 fun s hs hmetric => hm ?_
  rw [← of_decide_eq_true hmetric]
  exact (h s hs).resource_eq

end FabricGauges
