import FabricGauges.Proofs.Checks
import FabricGauges.Proofs.Decimal.Scaled
import FabricGauges.Proofs.Document.RoundTrip
import FabricGauges.Proofs.Json.Lexing

/-!
# Values that are read again

A value that has been written is read with its doubles read again and with nothing else changed,
unless it is nested too deep. A double comes back as it was when it is a decimal of 53 bits that is
scaled by a small power of ten; others may come back as another one.
-/

namespace FabricGauges

open Draft (Items Members)

/-! ## Doubles that come back -/

namespace Double

/-- The decimal that the text of a double shows is nearest to the double. -/
theorem ofDecimal?_shown (x : Double) :
    ofDecimal? x.negative x.shown.digits x.shown.exponent = some x := by
  rw [← x.ofDecimal?_shortest]
  unfold shown Json.Numeral.shown
  split
  · next h =>
    show ofDecimal? x.negative (x.shortest.digits * 10 ^ (x.shortest.exponent.toNat + 1)) (-1) = _
    rw [show (-1 : Int) = x.shortest.exponent - (x.shortest.exponent.toNat + 1 : Nat) by omega]
    exact ofDecimal?_mul_pow _ _ _ _
  · rfl

/-- A double that is shown as a decimal of 53 bits with a small exponent is read as itself. -/
theorem reread?_of_small {x : Double} (hdigits : x.shown.digits ≤ 2 ^ 53)
    (hexponent : x.shown.exponent.natAbs ≤ 22) : x.reread? = some x := by
  rw [reread?, ofScaled?_eq_ofDecimal? _ hdigits hexponent, ofDecimal?_shown]

end Double

namespace Json

/-! ## What is read of the parts of a value -/

section Parts

variable {x : Double} {name : String} {j j' : Json} {items items' : List Json}
  {members members' : List (String × Json)}

theorem reread?_double :
    (number (.double x)).reread? = some j' ↔ ∃ y, x.reread? = some y ∧ ofDouble y = j' := by
  rw [reread?]
  simp only [Option.bind_eq_bind, Option.bind_eq_some_iff, pure, Option.some.injEq]

/-- A list is reread item by item. -/
theorem reread?_list :
    (list items).reread? = some j' ↔
      ∃ items', rereadItems? items = some items' ∧ list items' = j' := by
  rw [reread?]
  simp only [Option.bind_eq_bind, Option.bind_eq_some_iff, pure, Option.some.injEq]

/-- A record is reread member by member, under the same names. -/
theorem reread?_record : (record members).reread? = some j' ↔
    ∃ members', rereadMembers? members = some members' ∧ record members' = j' := by
  rw [reread?]
  simp only [Option.bind_eq_bind, Option.bind_eq_some_iff, pure, Option.some.injEq]

theorem rereadItems?_cons : rereadItems? (j :: items) = some items' ↔
    ∃ j', j.reread? = some j' ∧ ∃ rest, rereadItems? items = some rest ∧ j' :: rest = items' := by
  rw [rereadItems?]
  simp only [Option.bind_eq_bind, Option.bind_eq_some_iff, pure, Option.some.injEq]

theorem rereadMembers?_cons : rereadMembers? ((name, j) :: members) = some members' ↔
    ∃ j', j.reread? = some j' ∧
      ∃ rest, rereadMembers? members = some rest ∧ (name, j') :: rest = members' := by
  rw [rereadMembers?]
  simp only [Option.bind_eq_bind, Option.bind_eq_some_iff, pure, Option.some.injEq]

end Parts

/-! ## What stays as it was -/

/-- Only null is read as null. -/
theorem reread?_eq_null_iff {j : Json} : j.reread? = some .null ↔ j = .null := by
  cases j with
  | number n =>
    cases n with
    | integer i => simp [reread?]
    | double x => simp [reread?_double, ofDouble]
  | list items => simp [reread?_list]
  | record members => simp [reread?_record]
  | _ => simp [reread?]

/-- A double is read where a double has been written. -/
theorem reread?_ofDouble {x y : Double} :
    (ofDouble x).reread? = some (ofDouble y) ↔ x.reread? = some y := by
  rw [ofDouble, reread?_double]
  simp [ofDouble]

/-- Members keep their names. -/
theorem names_of_rereadMembers? {members members' : List (String × Json)}
    (h : rereadMembers? members = some members') : members'.map (·.1) = members.map (·.1) := by
  induction members generalizing members' with
  | nil =>
    obtain rfl : [] = members' := Option.some.inj h
    rfl
  | cons m rest ih =>
    obtain ⟨value', -, rest', hrest, rfl⟩ := rereadMembers?_cons.1 h
    rw [List.map_cons, List.map_cons, ih hrest]

mutual

/-- A value whose members are sorted keeps them sorted. -/
theorem isSorted_of_reread? : {j j' : Json} → j.reread? = some j' → j.IsSorted → j'.IsSorted
  | .null, _, h, _ | .bool _, _, h, _ | .number (.integer _), _, h, _ | .text _, _, h, _ => by
    rw [← Option.some.inj h]
    trivial
  | .number (.double _), _, h, _ => by
    obtain ⟨y, -, rfl⟩ := reread?_double.1 h
    trivial
  | .list _, _, h, hsorted => by
    obtain ⟨items', hitems, rfl⟩ := reread?_list.1 h
    exact areSortedItems_of_rereadItems? hitems hsorted
  | .record _, _, h, hsorted => by
    obtain ⟨members', hmembers, rfl⟩ := reread?_record.1 h
    exact areSortedMembers_of_rereadMembers? hmembers hsorted

theorem areSortedItems_of_rereadItems? : {items items' : List Json} →
    rereadItems? items = some items' → AreSortedItems items → AreSortedItems items'
  | [], _, h, _ => by
    rw [← Option.some.inj h]
    trivial
  | _ :: _, _, h, hsorted => by
    obtain ⟨item', hitem, rest', hrest, rfl⟩ := rereadItems?_cons.1 h
    exact ⟨isSorted_of_reread? hitem hsorted.1, areSortedItems_of_rereadItems? hrest hsorted.2⟩

theorem areSortedMembers_of_rereadMembers? : {members members' : List (String × Json)} →
    rereadMembers? members = some members' → AreSortedMembers members → AreSortedMembers members'
  | [], _, h, _ => by
    rw [← Option.some.inj h]
    trivial
  | (name, value) :: rest, _, h, ⟨hlater, hvalue, hsorted⟩ => by
    obtain ⟨value', hread, rest', hrest, rfl⟩ := rereadMembers?_cons.1 h
    refine ⟨fun m hm => ?_, isSorted_of_reread? hread hvalue,
      areSortedMembers_of_rereadMembers? hrest hsorted⟩
    have hname : m.1 ∈ rest.map (·.1) := by
      rw [← names_of_rereadMembers? hrest]
      exact List.mem_map_of_mem hm
    obtain ⟨n, hn, hsame⟩ := List.mem_map.1 hname
    rw [← hsame]
    exact hlater n hn

end

mutual

/-- A value stays as it was when all its doubles do. -/
theorem reread?_eq_self_iff : (j : Json) →
    (j.reread? = some j ↔ ∀ x ∈ j.doubles, x.reread? = some x)
  | .null | .bool _ | .number (.integer _) | .text _ => by simp [reread?, doubles]
  | .number (.double x) => by simp [reread?_double, doubles, ofDouble]
  | .list items => by simp [reread?_list, doubles, rereadItems?_eq_self_iff items]
  | .record members => by simp [reread?_record, doubles, rereadMembers?_eq_self_iff members]

/-- Items are reread as they are if all their doubles are. -/
theorem rereadItems?_eq_self_iff : (items : List Json) →
    (rereadItems? items = some items ↔ ∀ x ∈ doublesOfItems items, x.reread? = some x)
  | [] => by simp [rereadItems?, doublesOfItems]
  | item :: rest => by
    simp [rereadItems?_cons, doublesOfItems, or_imp, forall_and, reread?_eq_self_iff item,
      rereadItems?_eq_self_iff rest]

/-- Members are reread as they are if all their doubles are. -/
theorem rereadMembers?_eq_self_iff : (members : List (String × Json)) →
    (rereadMembers? members = some members ↔ ∀ x ∈ doublesOfMembers members, x.reread? = some x)
  | [] => by simp [rereadMembers?, doublesOfMembers]
  | (name, value) :: rest => by
    simp [rereadMembers?_cons, doublesOfMembers, or_imp, forall_and, reread?_eq_self_iff value,
      rereadMembers?_eq_self_iff rest]

end

/-! ## Drafts of written values -/

/-- Nothing but null is drafted as null. -/
theorem draft_tree_ne_null {j : Json} (h : j ≠ .null) (depth : Nat) : j.tree.draft depth ≠ .null := by
  cases j with
  | null => exact absurd rfl h
  | number n =>
    cases n with
    | integer i => exact nofun
    | double x =>
      rw [tree]
      cases x.reread? <;> exact nofun
  | list items => cases depth <;> exact nofun
  | record members => cases depth <;> exact nofun
  | _ => exact nofun

mutual

/-- Any value is read again from what was written of it, with its doubles read again, unless it is
nested too deep. -/
theorem free_draft_tree : (j : Json) → (depth : Nat) → {j' : Json} →
    ((j.tree.draft depth).free = .ok j' ↔ j.depth ≤ depth ∧ j.reread? = some j')
  | .null, _, _ | .bool _, _, _ | .number (.integer _), _, _ | .text _, _, _ => by
    simp [tree, Tree.draft, Draft.free, Json.depth, reread?, Dialect.free, bind, Except.bind, pure,
      Except.pure]
  | .number (.double x), _, j' => by
    rw [reread?_double]
    -- a text that is too large for a double is the only one that is not read
    cases hx : x.reread? with
    | none => simp [tree, hx, Tree.draft, Draft.free]
    | some y =>
      simp [tree, hx, Tree.draft, Draft.free, Json.depth, Dialect.free, bind, Except.bind, pure,
        Except.pure, ofDouble]
  | .list items, 0, _ => by
    simp [Json.depth, tree, Tree.draft, Draft.free, Items.free, ListEnd.fault?, bind, Except.bind]
  | .list items, depth + 1, _ => by
    rw [tree, Tree.draft, Draft.free, bind_eq_ok, Json.depth, Nat.succ_le_succ_iff, reread?_list]
    simp only [free_draftItems_trees items depth, and_assoc, exists_and_left, pure, Except.pure,
      Except.ok.injEq]
  | .record members, 0, _ => by
    simp [Json.depth, tree, Tree.draft, Draft.free, Members.free, bind, Except.bind]
  | .record members, depth + 1, _ => by
    rw [tree, Tree.draft, Draft.free, bind_eq_ok, Json.depth, Nat.succ_le_succ_iff, reread?_record]
    simp only [free_draftMembers_trees members depth, and_assoc, exists_and_left, pure, Except.pure,
      Except.ok.injEq]

theorem free_draftItems_trees : (items : List Json) → (depth : Nat) → {items' : List Json} →
    ((Tree.draftItems depth (treesOfItems items)).free = .ok items' ↔
      depthItems items ≤ depth ∧ rereadItems? items = some items')
  | [], depth, items' => by
    simp [treesOfItems, Tree.draftItems, Items.free, ListEnd.fault?, depthItems, rereadItems?]
  | item :: rest, depth, items' => by
    rw [treesOfItems, Tree.draftItems, Items.free, depthItems, Nat.max_le, rereadItems?_cons]
    simp only [bind_eq_ok, free_draft_tree item depth, free_draftItems_trees rest depth, pure,
      Except.pure, Except.ok.injEq]
    constructor
    · rintro ⟨item', ⟨hitem, hread⟩, rest', ⟨hrest, hlater⟩, hitems⟩
      exact ⟨⟨hitem, hrest⟩, item', hread, rest', hlater, hitems⟩
    · rintro ⟨⟨hitem, hrest⟩, item', hread, rest', hlater, hitems⟩
      exact ⟨item', ⟨hitem, hread⟩, rest', ⟨hrest, hlater⟩, hitems⟩

theorem free_draftMembers_trees : (members : List (String × Json)) → (depth : Nat) →
    {members' : List (String × Json)} →
    ((Tree.draftMembers depth (treesOfMembers members)).free = .ok members' ↔
      depthMembers members ≤ depth ∧ rereadMembers? members = some members')
  | [], depth, members' => by
    simp [treesOfMembers, Tree.draftMembers, Members.free, depthMembers, rereadMembers?]
  | (name, value) :: rest, depth, members' => by
    rw [treesOfMembers, Tree.draftMembers, Members.free, depthMembers, Nat.max_le,
      rereadMembers?_cons]
    simp only [bind_eq_ok, free_draft_tree value depth, free_draftMembers_trees rest depth, pure,
      Except.pure, Except.ok.injEq]
    constructor
    · rintro ⟨value', ⟨hvalue, hread⟩, rest', ⟨hrest, hlater⟩, hmembers⟩
      exact ⟨⟨hvalue, hrest⟩, value', hread, rest', hlater, hmembers⟩
    · rintro ⟨⟨hvalue, hrest⟩, value', hread, rest', hlater, hmembers⟩
      exact ⟨value', ⟨hvalue, hread⟩, rest', ⟨hrest, hlater⟩, hmembers⟩

end

end Json

end FabricGauges
