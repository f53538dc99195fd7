import FabricGauges.Record.Index
import Mathlib.Data.Finset.Card

/-!
# What an index finds

An index of a list finds the first record of the list that has the key, and holds one entry for each
key that some record has. Both follow from what one more record changes: only its own key, and that
only if no record before had it.
-/

namespace FabricGauges.Index

variable {κ α : Type} [DecidableEq κ]

theorem find?_isSome {i : Index κ α} {key : κ} :
    (i.find? key).isSome ↔ key ∈ i.entries.map Prod.fst := by
  unfold find?
  rw [Option.isSome_map, List.find?_isSome]
  simp

/-- A new record is found under its key, unless the key was taken. -/
theorem find?_insert (i : Index κ α) (taken key : κ) (record : α) :
    (i.insert taken record).find? key =
      (i.find? key).or (if taken = key then some record else none) := by
  unfold insert
  split
  · next h =>
    by_cases hkey : taken = key
    · subst hkey
      obtain ⟨found, hfound⟩ := Option.isSome_iff_exists.1 (find?_isSome.2 h)
      rw [hfound, Option.some_or]
    · rw [if_neg hkey, Option.or_none]
  · unfold find?
    rw [List.find?_append, List.find?_singleton]
    cases i.entries.find? fun entry => entry.1 = key <;> by_cases hkey : taken = key <;> simp [hkey]

/-- An index finds the first record of a key. -/
theorem find?_ofList (keyOf : α → Option κ) (records : List α) (key : κ) :
    (ofList keyOf records).find? key = records.find? fun r => keyOf r = some key := by
  have hempty : (empty : Index κ α).find? key = none := rfl
  unfold ofList
  -- the records before are those of any index, and the empty one is the first
  rw [← Option.none_or (o := records.find? _), ← hempty]
  generalize (empty : Index κ α) = i
  induction records generalizing i with
  | nil => exact (Option.or_none).symm
  | cons r records ih =>
    rw [List.foldl_cons, ih, List.find?_cons]
    cases hr : keyOf r with
    | none => rfl
    | some k =>
      rw [find?_insert, Option.or_assoc]
      by_cases hk : k = key <;> simp [hk]

/-- The keys of an index are those of the records. -/
theorem mem_keys_ofList {keyOf : α → Option κ} {records : List α} {key : κ} :
    key ∈ (ofList keyOf records).entries.map Prod.fst ↔ key ∈ records.filterMap keyOf := by
  rw [← find?_isSome, find?_ofList, List.find?_isSome, List.mem_filterMap]
  simp

/-- There is one entry for each key. -/
theorem length_entries_ofList (keyOf : α → Option κ) (records : List α) :
    (ofList keyOf records).entries.length = (records.filterMap keyOf).toFinset.card := by
  have hkeys : ((ofList keyOf records).entries.map Prod.fst).toFinset =
      (records.filterMap keyOf).toFinset := by
    ext key
    rw [List.mem_toFinset, List.mem_toFinset, mem_keys_ofList]
  rw [← hkeys, List.toFinset_card_of_nodup (ofList keyOf records).nodup, List.length_map]

/-- An index finds what a scan of the records from the first to the last stops at: a record is found
under a key if, and only if, it is the first one with that key, and nothing is if no record has it.
There are as many entries as there are different keys. -/
theorem index_agrees_with_scan (keyOf : α → Option κ) (records : List α) :
    (∀ key record, (ofList keyOf records).find? key = some record ↔
      keyOf record = some key ∧ ∃ before after, records = before ++ record :: after ∧
        ∀ r ∈ before, keyOf r ≠ some key) ∧
    (∀ key, (ofList keyOf records).find? key = none ↔ ∀ r ∈ records, keyOf r ≠ some key) ∧
    (ofList keyOf records).entries.length = (records.filterMap keyOf).toFinset.card := by
  refine ⟨fun key record => ?_, fun key => ?_, length_entries_ofList keyOf records⟩
  · rw [find?_ofList, List.find?_eq_some_iff_append]
    simp
  · rw [find?_ofList, List.find?_eq_none]
    simp

end FabricGauges.Index
