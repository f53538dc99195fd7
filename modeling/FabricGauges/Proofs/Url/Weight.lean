import FabricGauges.Proofs.Url.Path
import Mathlib.Algebra.Order.BigOperators.Group.List
import Mathlib.Algebra.Order.Group.Nat

/-!
# The weight of a path

What a path weighs, the bytes that its segments stand for and a slash before each, never grows while
it is resolved, and it is never more than what is written. So a path that weighs as much as it is
written has lost nothing where it was read: no dot segment, no escape and no cut that was not meant.
-/

namespace FabricGauges.Url

open Text

/-- What the segments of a path weigh: the bytes that they stand for and a slash before each. -/
def weight (path : List (List Char)) : Nat :=
  (path.map fun segment => (Percent.decode segment).length + 1).sum

@[simp] theorem weight_nil : weight [] = 0 := rfl

@[simp] theorem weight_cons (segment : List Char) (path : List (List Char)) :
    weight (segment :: path) = (Percent.decode segment).length + 1 + weight path := rfl

@[simp] theorem weight_append (path more : List (List Char)) :
    weight (path ++ more) = weight path + weight more := by
  simp [weight]

theorem weight_dropLast_le (path : List (List Char)) : weight path.dropLast ≤ weight path := by
  rcases List.eq_nil_or_concat' path with rfl | ⟨path, last, rfl⟩
  · rfl
  · simp

/-- Where a dot segment stands, what follows is resolved behind what was kept or less, perhaps with
an empty segment. -/
theorem resolve_cons_of_isDots {segment : List Char} (h : isDots segment = true)
    (kept rest : List (List Char)) :
    ∃ left, resolve kept (segment :: rest) = resolve left rest ∧ weight left ≤ weight kept + 1 := by
  have hdots : plainDots segment = ['.'] ∨ plainDots segment = ['.', '.'] := of_decide_eq_true h
  have hending : weight (if rest.isEmpty = true then [[]] else []) ≤ 1 := by
    split_ifs <;> simp [Percent.decode]
  have hle := weight_dropLast_le kept
  by_cases hup : plainDots segment = ['.', '.']
  · refine ⟨kept.dropLast ++ if rest.isEmpty = true then [[]] else [], ?_, ?_⟩
    · rw [resolve, if_pos hup]
    · rw [weight_append]
      omega
  · have hstay := hdots.resolve_right hup
    refine ⟨kept ++ if rest.isEmpty = true then [[]] else [], ?_, ?_⟩
    · rw [resolve, if_neg hup, if_pos hstay]
    · rw [weight_append]
      omega

/-- Segments do not gain weight while they are resolved. -/
theorem weight_resolve_le (kept segments : List (List Char)) :
    weight (resolve kept segments) ≤ weight kept + weight segments := by
  induction segments generalizing kept with
  | nil => simp [resolve]
  | cons segment rest ih =>
    cases hdots : isDots segment with
    | true =>
      obtain ⟨left, hleft, hle⟩ := resolve_cons_of_isDots hdots kept rest
      have hrest := ih left
      rw [hleft, weight_cons]
      omega
    | false =>
      have hrest := ih (kept ++ [Percent.encode isPathEscaped segment])
      rw [weight_append, weight_cons, Percent.decode_encode escapable_path, weight_nil] at hrest
      rw [resolve_cons_of_plain hdots, weight_cons]
      omega

/-- Segments that keep their weight while they are resolved hold no dot segment. -/
theorem plain_of_weight_resolve (kept : List (List Char)) {segments : List (List Char)}
    (h : weight kept + weight segments ≤ weight (resolve kept segments)) :
    ∀ s ∈ segments, isDots s = false := by
  induction segments generalizing kept with
  | nil => simp
  | cons segment rest ih =>
    cases hdots : isDots segment with
    | true =>
      obtain ⟨left, hleft, hle⟩ := resolve_cons_of_isDots hdots kept rest
      have hrest := weight_resolve_le left rest
      have hpos := Percent.length_decode_pos (ne_nil_of_isDots hdots)
      rw [hleft, weight_cons] at h
      omega
    | false =>
      rw [resolve_cons_of_plain hdots, weight_cons] at h
      have hrest := ih (kept ++ [Percent.encode isPathEscaped segment]) (by
        rw [weight_append, weight_cons, Percent.decode_encode escapable_path, weight_nil]
        omega)
      exact List.forall_mem_cons.2 ⟨hdots, hrest⟩

/-- A path weighs at most as much as it is written. -/
theorem weight_le_sum (path : List (List Char)) :
    weight path ≤ (path.map fun segment => (utf8 segment).length + 1).sum := by
  refine List.sum_le_sum fun segment _ => Nat.succ_le_succ ?_
  rcases Percent.decode_eq_or_length_lt segment with h | h
  · rw [h]
  · exact h.le

/-- Where a path weighs as much as it is written, its segments stand for their own bytes. -/
theorem decode_of_sum_le_weight {path : List (List Char)}
    (h : (path.map fun segment => (utf8 segment).length + 1).sum ≤ weight path) :
    ∀ segment ∈ path, Percent.decode segment = utf8 segment := by
  induction path with
  | nil => simp
  | cons segment rest ih =>
    have hrest := weight_le_sum rest
    rw [List.map_cons, List.sum_cons, weight_cons] at h
    rcases Percent.decode_eq_or_length_lt segment with hsegment | hsegment
    · rw [hsegment] at h
      exact List.forall_mem_cons.2 ⟨hsegment, ih (by omega)⟩
    · omega

/-- What is written behind a path adds at most its own bytes and a slash. -/
theorem weight_resolve_pieces_le (kept : List (List Char)) (s : List Char) :
    weight (resolve kept (pieces isSlash s)) ≤ weight kept + ((utf8 s).length + 1) :=
  calc weight (resolve kept (pieces isSlash s))
    _ ≤ weight kept + weight (pieces isSlash s) := weight_resolve_le kept _
    _ ≤ weight kept + ((pieces isSlash s).map fun piece => (utf8 piece).length + 1).sum :=
      Nat.add_le_add_left (weight_le_sum _) _
    _ ≤ weight kept + ((utf8 s).length + 1) := Nat.add_le_add_left (sum_length_pieces_le isSlash s) _

/-- What is written behind a path and keeps its weight there has lost nothing: it holds no dot
segment, and its segments stand for their own bytes. -/
theorem kept_of_weight {kept : List (List Char)} {s : List Char}
    (h : weight kept + ((utf8 s).length + 1) ≤ weight (resolve kept (pieces isSlash s))) :
    (∀ piece ∈ pieces isSlash s, isDots piece = false) ∧
      ∀ piece ∈ pieces isSlash s, Percent.decode piece = utf8 piece := by
  have hresolved := weight_resolve_le kept (pieces isSlash s)
  have hpieces := weight_le_sum (pieces isSlash s)
  have hsum := sum_length_pieces_le isSlash s
  exact ⟨plain_of_weight_resolve kept (by omega), decode_of_sum_le_weight (by omega)⟩

end FabricGauges.Url
