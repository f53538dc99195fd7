import FabricGauges.Json.Basic

/-!
# Values whose members are sorted

A value that is kept as it is has its members in a map: they are sorted by name and give each name
once. `Json.Sorted` is the type of such values. Of any other value it keeps the canonical one.
-/

namespace FabricGauges.Json

mutual

/-- Whether the members of every record are sorted by name, each name once. -/
def IsSorted : Json → Prop
  | .list items => AreSortedItems items
  | .record members => AreSortedMembers members
  | .null | .bool _ | .number _ | .text _ => True

/-- Whether every item is sorted. -/
def AreSortedItems : List Json → Prop
  | [] => True
  | item :: rest => item.IsSorted ∧ AreSortedItems rest

/-- Whether the names increase and every value is sorted. -/
def AreSortedMembers : List (String × Json) → Prop
  | [] => True
  | (name, value) :: rest =>
    (∀ m ∈ rest, name < m.1) ∧ value.IsSorted ∧ AreSortedMembers rest

end

/-- A member that is inserted is the new one or one of the old ones. -/
theorem mem_insertMember {name : String} {value : Json} {members : List (String × Json)}
    {m : String × Json} (h : m ∈ insertMember name value members) :
    m = (name, value) ∨ m ∈ members := by
  induction members with
  | nil => exact .inl (List.mem_singleton.1 h)
  | cons first rest ih =>
    obtain ⟨key, old⟩ := first
    rw [insertMember] at h
    split at h
    · exact (List.mem_cons.1 h).imp_right id
    · split at h
      · exact (List.mem_cons.1 h).imp_right (List.mem_cons_of_mem _)
      · rcases List.mem_cons.1 h with rfl | hrest
        · exact .inr List.mem_cons_self
        · exact (ih hrest).imp_right (List.mem_cons_of_mem _)

theorem areSortedMembers_insertMember {name : String} {value : Json} (hvalue : value.IsSorted)
    {members : List (String × Json)} (h : AreSortedMembers members) :
    AreSortedMembers (insertMember name value members) := by
  induction members with
  | nil => exact ⟨nofun, hvalue, trivial⟩
  | cons first rest ih =>
    obtain ⟨key, old⟩ := first
    obtain ⟨hlater, hold, hrest⟩ := h
    rw [insertMember]
    split
    -- a new name before the first one
    · next hlt =>
      refine ⟨fun m hm => ?_, hvalue, hlater, hold, hrest⟩
      rcases List.mem_cons.1 hm with rfl | hm
      · exact hlt
      · exact String.lt_trans hlt (hlater m hm)
    · next hle =>
      split
      -- the first name again, whose value is replaced
      · next heq => exact ⟨heq ▸ hlater, hvalue, hrest⟩
      -- a name behind the first one, which is inserted among the rest
      · next hne =>
        have hkey : key < name := by
          apply Decidable.of_not_not
          intro hkey
          exact hne (String.le_antisymm (String.not_lt.1 hkey) (String.not_lt.1 hle))
        refine ⟨fun m hm => ?_, hold, ih hrest⟩
        rcases mem_insertMember hm with rfl | hm
        · exact hkey
        · exact hlater m hm

mutual

theorem isSorted_canonical : (j : Json) → j.canonical.IsSorted
  | .null | .bool _ | .number _ | .text _ => trivial
  | .list items => areSortedItems_canonicalItems items
  | .record members => areSortedMembers_canonicalMembers members trivial

theorem areSortedItems_canonicalItems : (items : List Json) →
    AreSortedItems (canonicalItems items)
  | [] => trivial
  | item :: rest => ⟨isSorted_canonical item, areSortedItems_canonicalItems rest⟩

theorem areSortedMembers_canonicalMembers : (members : List (String × Json)) →
    {sorted : List (String × Json)} → AreSortedMembers sorted →
    AreSortedMembers (canonicalMembers members sorted)
  | [], _, h => h
  | (_, value) :: rest, _, h =>
    areSortedMembers_canonicalMembers rest
      (areSortedMembers_insertMember (isSorted_canonical value) h)

end

/-- A value in which the members of every record are sorted by name, each name once. -/
structure Sorted where
  json : Json
  isSorted : json.IsSorted

/-- A value with its members sorted, the last one of each name standing. -/
def sorted (json : Json) : Sorted := ⟨json.canonical, json.isSorted_canonical⟩

end FabricGauges.Json
