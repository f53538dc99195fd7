/-!
# Indexes

An index finds the first record of a key. Records without a key are not in it, and later records of
a key that is taken are dropped.
-/

namespace FabricGauges

/-- Records by key, one for each key, in the order in which the keys were first seen. -/
structure Index (κ : Type) (α : Type) where
  entries : List (κ × α)
  nodup : (entries.map Prod.fst).Nodup

namespace Index

variable {κ α : Type} [DecidableEq κ]

/-- The index of no records. -/
def empty : Index κ α := ⟨[], by simp⟩

/-- The record of a key. -/
def find? (i : Index κ α) (key : κ) : Option α :=
  (i.entries.find? fun entry => entry.1 = key).map Prod.snd

/-- The index with one more record, unless its key is taken. -/
def insert (i : Index κ α) (key : κ) (record : α) : Index κ α :=
  if h : key ∈ i.entries.map Prod.fst then i
  else ⟨i.entries ++ [(key, record)], by
    rw [List.map_append, List.nodup_append]
    refine ⟨i.nodup, by simp, ?_⟩
    intro a ha b hb
    simp only [List.map_cons, List.map_nil, List.mem_singleton] at hb
    subst hb
    exact fun hab => h (hab ▸ ha)⟩

/-- The index of a list of records by a key that not every record has. -/
def ofList (key : α → Option κ) (records : List α) : Index κ α :=
  records.foldl (fun i record =>
    match key record with
    | some k => i.insert k record
    | none => i) empty

end Index

end FabricGauges
