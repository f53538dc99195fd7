import FabricGauges.Decimal.Double

/-!
# Series

The series of a gauge are values by key, one for each key. Setting a key that is there replaces its
value, so the last value set is the one that stands. Where many gauges are kept together, the key
names the family and its label values, and a family can be reset.
-/

namespace FabricGauges

/-- Values by key, in the order in which the keys were first set. -/
structure Series (κ : Type) where
  entries : List (κ × Double)
  nodup : (entries.map Prod.fst).Nodup

namespace Series

variable {κ : Type}

/-- No series. -/
def empty : Series κ := ⟨[], by simp⟩

instance : Inhabited (Series κ) := ⟨empty⟩

/-- The series whose key satisfies a condition. -/
def filter (p : κ → Bool) (s : Series κ) : Series κ :=
  ⟨s.entries.filter fun entry => p entry.1, by
    exact (List.filter_sublist.map Prod.fst).nodup s.nodup⟩

variable [DecidableEq κ]

/-- The value of a key. -/
def value? (s : Series κ) (key : κ) : Option Double :=
  (s.entries.find? fun entry => entry.1 = key).map Prod.snd

/-- The entries with a key set to a value. -/
def setEntry (key : κ) (value : Double) : List (κ × Double) → List (κ × Double)
  | [] => [(key, value)]
  | (other, old) :: rest =>
    if other = key then (key, value) :: rest else (other, old) :: setEntry key value rest

theorem map_fst_setEntry (key : κ) (value : Double) (entries : List (κ × Double)) :
    (setEntry key value entries).map Prod.fst =
      if key ∈ entries.map Prod.fst then entries.map Prod.fst
      else entries.map Prod.fst ++ [key] := by
  induction entries with
  | nil => simp [setEntry]
  | cons entry rest ih =>
    obtain ⟨other, old⟩ := entry
    rw [setEntry]
    by_cases h : other = key
    · simp [h]
    · rw [if_neg h, List.map_cons, ih]
      have h' : ¬key = other := fun e => h e.symm
      simp only [List.map_cons, List.mem_cons, h', false_or]
      split <;> simp

/-- The series with a key set to a value. -/
def set (s : Series κ) (key : κ) (value : Double) : Series κ :=
  ⟨setEntry key value s.entries, by
    rw [map_fst_setEntry]
    split
    · exact s.nodup
    · next h =>
      rw [List.nodup_append]
      refine ⟨s.nodup, by simp, ?_⟩
      intro a ha b hb
      simp only [List.mem_singleton] at hb
      subst hb
      exact fun hab => h (hab ▸ ha)⟩

/-- The series with some keys set one after the other. -/
def setAll (s : Series κ) (values : List (κ × Double)) : Series κ :=
  values.foldl (fun s entry => s.set entry.1 entry.2) s

/-! ## Families -/

section

variable {φ : Type} [DecidableEq φ]

/-- The series of a family, by their label values. -/
def family (s : Series (φ × List String)) (f : φ) : List (List String × Double) :=
  s.entries.filterMap fun ((family, labels), value) =>
    if family = f then some (labels, value) else none

/-- The series without those of some families. -/
def clear (s : Series (φ × List String)) (cleared : φ → Bool) : Series (φ × List String) :=
  s.filter fun key => !cleared key.1

/-- The series after some families have been reset, one after the other. -/
def reset (s : Series (φ × List String)) (families : List φ) : Series (φ × List String) :=
  families.foldl (fun s f => s.clear (· = f)) s

end

end Series

end FabricGauges
