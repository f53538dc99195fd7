import FabricGauges.Listing.Walk
import Mathlib.Data.List.Nodup
import Mathlib.Data.List.Perm.Subperm

/-!
# Chains of cursors

A listing that answers each cursor with a fixed page hands out a chain of cursors: that of the first
page, that of the page for it, and so on. A cursor that comes back brings everything after it back,
so such a chain has no end. A chain of finitely many cursors of which none comes back has one.
-/

namespace FabricGauges

variable {ε α : Type}

/-- The cursor that an answer hands out. -/
def nextCursor? : Except ε (Page α) → Option String
  | .ok page => page.next?
  | .error _ => none

/-- The cursor that is handed out some pages after the page for a cursor. -/
def chain? (pages : Option String → Except ε (Page α)) (cursor : Option String) :
    Nat → Option String
  | 0 => nextCursor? (pages cursor)
  | n + 1 => (nextCursor? (pages cursor)).bind fun next => chain? pages (some next) n

/-- The first page of a listing leads to some cursor twice. -/
def Returning (pages : Option String → Except ε (Page α)) : Prop :=
  ∃ i j next, i < j ∧ chain? pages none i = some next ∧ chain? pages none j = some next

variable {pages : Option String → Except ε (Page α)} {cursor : Option String}

/-- A chain goes on as that of the cursor it has come to. -/
theorem chain?_add (i n : Nat) : chain? pages cursor (i + 1 + n) =
    (chain? pages cursor i).bind fun next => chain? pages (some next) n := by
  induction i generalizing cursor with
  | zero =>
    rw [Nat.add_right_comm, Nat.zero_add]
    rfl
  | succ i ih =>
    rw [Nat.add_right_comm (i + 1), chain?, chain?, Option.bind_assoc]
    exact Option.bind_congr fun next _ => ih

/-- After a cursor that comes back, the chain goes on for ever. -/
theorem Returning.chain?_ne_none (h : Returning pages) (n : Nat) : chain? pages none n ≠ none := by
  obtain ⟨i, j, next, hij, hi, hj⟩ := h
  induction n using Nat.strongRecOn with
  | ind n ih =>
    intro hnone
    rcases Nat.lt_trichotomy n j with hn | rfl | hn
    · -- a chain that has ended does not come to a cursor any more
      obtain ⟨k, rfl⟩ : ∃ k, j = n + 1 + k := ⟨j - (n + 1), by omega⟩
      rw [chain?_add, hnone] at hj
      cases hj
    · rw [hj] at hnone
      cases hnone
    · -- what comes after the second time has come after the first time already
      obtain ⟨k, rfl⟩ : ∃ k, n = j + 1 + k := ⟨n - (j + 1), by omega⟩
      have hback : chain? pages none (i + 1 + k) = chain? pages none (j + 1 + k) := by
        rw [chain?_add, chain?_add, hi, hj]
      exact ih (i + 1 + k) (by omega) (hback.trans hnone)

theorem mem_of_chain? {handed : List String}
    (hhanded : ∀ cursor next, nextCursor? (pages cursor) = some next → next ∈ handed)
    {next : String} {n : Nat} (h : chain? pages cursor n = some next) : next ∈ handed := by
  induction n generalizing cursor with
  | zero => exact hhanded cursor next h
  | succ n ih =>
    obtain ⟨first, -, h⟩ := Option.bind_eq_some_iff.1 h
    exact ih h

/-- A chain that comes to no cursor twice ends after all cursors at the latest. -/
theorem exists_chain?_eq_none {handed : List String}
    (hhanded : ∀ cursor next, nextCursor? (pages cursor) = some next → next ∈ handed)
    (h : ¬Returning pages) : ∃ n ≤ handed.length, chain? pages none n = none := by
  by_contra hnever
  have hsome : ∀ n ≤ handed.length, ∃ next, chain? pages none n = some next := by
    intro n hn
    exact Option.ne_none_iff_exists'.1 fun hnone => hnever ⟨n, hn, hnone⟩
  -- the first cursors are all different, and there are more of them than are handed out
  have hnodup : ((List.range (handed.length + 1)).map (chain? pages none)).Nodup := by
    refine List.Nodup.map_on (fun i hi j hj heq => ?_) List.nodup_range
    obtain ⟨next, hnext⟩ := hsome i (Nat.lt_succ_iff.1 (List.mem_range.1 hi))
    rcases Nat.lt_trichotomy i j with hlt | heq' | hlt
    · exact absurd ⟨i, j, next, hlt, hnext, heq ▸ hnext⟩ h
    · exact heq'
    · exact absurd ⟨j, i, next, hlt, heq ▸ hnext, hnext⟩ h
  have hsubset : (List.range (handed.length + 1)).map (chain? pages none) ⊆ handed.map some := by
    intro o ho
    obtain ⟨n, hn, rfl⟩ := List.mem_map.1 ho
    obtain ⟨next, hnext⟩ := hsome n (Nat.lt_succ_iff.1 (List.mem_range.1 hn))
    rw [hnext]
    exact List.mem_map_of_mem (mem_of_chain? hhanded hnext)
  have hlength := (hnodup.subperm hsubset).length_le
  rw [List.length_map, List.length_range, List.length_map] at hlength
  omega

end FabricGauges
