import FabricGauges.Metric.Basic
import FabricGauges.Proofs.Exposition.Verbatim

/-!
# Names and descriptions of the families

The texts of the families are put together from a few pieces. No two families have the same name,
names consist of characters that a metric name can have, label names are names, and nothing in a
description needs escaping.
-/

namespace FabricGauges

open OpenMetrics (isNamePart isHarmless isName isLabelStart isLabelPart)

/-! ## Texts put together -/

/-- All characters of a text satisfy a condition. -/
def AllChars (p : Char → Bool) (s : String) : Prop := s.toList.all p

namespace AllChars

variable {p : Char → Bool} {s t : String}

theorem ofList {cs : List Char} (h : cs.all p) : AllChars p (String.ofList cs) := by
  unfold AllChars
  rwa [String.toList_ofList]

theorem append (hs : AllChars p s) (ht : AllChars p t) : AllChars p (s ++ t) := by
  unfold AllChars
  rw [String.toList_append, List.all_append, hs, ht]
  rfl

end AllChars

/-! ## Families -/

namespace Metric

/-- All metrics are listed. -/
theorem mem_all (m : Metric) : m ∈ all := by
  cases m with
  | cluster m | interface m | node m | balancer m | virtualServer m | pool m | member m =>
    cases m <;> decide
  | session layer m => cases layer <;> cases m <;> decide
  | traffic c m => cases c <;> cases m <;> decide
  | gateway kind m => cases kind <;> cases m <;> decide

/-- The names of families can be part of a metric name. -/
theorem allChars_name (m : Metric) : AllChars isNamePart m.family.name := by
  cases m with
  | cluster m => cases m <;> exact .ofList (by decide)
  | interface m | node m | balancer m | virtualServer m | pool m | member m =>
    refine .append (.ofList (by decide)) ?_
    cases m <;> exact .ofList (by decide)
  | session layer m =>
    have hlayer : AllChars isNamePart layer.stem := by cases layer <;> exact .ofList (by decide)
    have hstem : AllChars isNamePart m.stem := by cases m <;> exact .ofList (by decide)
    exact .append (.append (.append (.ofList (by decide)) hlayer) (.ofList (by decide))) hstem
  | traffic c m =>
    have hcarrier : AllChars isNamePart c.stem := by cases c <;> exact .ofList (by decide)
    refine .append (.append hcarrier (.ofList (by decide))) ?_
    cases m <;> exact .ofList (by decide)
  | gateway kind m =>
    have hkind : AllChars isNamePart kind.name := by cases kind <;> exact .ofList (by decide)
    refine .append (.append hkind (.ofList (by decide))) ?_
    cases m <;> exact .ofList (by decide)

/-- Nothing in a description needs escaping. -/
theorem allChars_help (m : Metric) : AllChars isHarmless m.family.help := by
  cases m with
  | cluster m | interface m | node m | balancer m | virtualServer m | pool m | member m =>
    cases m <;> exact .ofList (by decide)
  | session layer m =>
    have hquantity : AllChars isHarmless m.quantity := by cases m <;> exact .ofList (by decide)
    have htitle : AllChars isHarmless layer.title := by cases layer <;> exact .ofList (by decide)
    exact .append (.append (.append hquantity (.ofList (by decide))) htitle) (.ofList (by decide))
  | traffic c m =>
    have htitle : AllChars isHarmless c.title := by cases c <;> exact .ofList (by decide)
    cases m <;> exact .append (.ofList (by decide)) htitle
  | gateway kind m =>
    have hkind : AllChars isHarmless kind.name := by cases kind <;> exact .ofList (by decide)
    cases m <;> exact .append (.append (.ofList (by decide)) hkind) (.ofList (by decide))

/-- Every family has labels, and label names are names. -/
theorem isName_labels (m : Metric) : m.family.labels ≠ [] ∧
    ∀ l ∈ m.family.labels, isName isLabelStart isLabelPart l.toList := by
  have hall : ∀ m ∈ all, m.family.labels ≠ [] ∧
      ∀ l ∈ m.family.labels, isName isLabelStart isLabelPart l.toList := by decide +kernel
  exact hall m m.mem_all

end Metric

end FabricGauges
