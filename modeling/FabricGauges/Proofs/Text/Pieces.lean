import FabricGauges.Proofs.Text.Percent
import FabricGauges.Text.Pieces
import Mathlib.Algebra.GroupWithZero.Nat

/-!
# Cutting a text that is put together

Where a text is put together, its pieces are those of its parts: a cut between them keeps them
apart, and a part without cuts goes on with the last piece. The pieces of a text have fewer bytes
than the text by what the cuts take.
-/

namespace FabricGauges.Text

variable {cut : Char → Bool}

/-- The pieces of a text are those of its library split. -/
theorem pieces_eq_splitOnP (s : List Char) : pieces cut s = s.splitOnP cut := by
  induction s with
  | nil => rw [List.splitOnP_nil, pieces]
  | cons c s ih =>
    obtain ⟨piece, more, hpieces⟩ := List.exists_cons_of_ne_nil (pieces_ne_nil cut s)
    rw [List.splitOnP_cons_eq_if_modifyHead, ← ih, pieces, hpieces]
    rfl

/-- A text without cuts is one piece. -/
theorem pieces_of_uncut {s : List Char} (h : ∀ c ∈ s, cut c = false) : pieces cut s = [s] := by
  rw [pieces_eq_splitOnP, List.splitOnP_eq_singleton h]

/-- A cut keeps the pieces on its sides apart. -/
theorem pieces_append_cut {c : Char} (hc : cut c = true) (s t : List Char) :
    pieces cut (s ++ c :: t) = pieces cut s ++ pieces cut t := by
  simp only [pieces_eq_splitOnP, List.splitOnP_append_cons s t hc]

/-- A text without cuts goes on with the last piece of the text before it. -/
theorem pieces_append_uncut {t : List Char} (ht : ∀ c ∈ t, cut c = false) (s : List Char) :
    ∃ init last, pieces cut s = init ++ [last] ∧ pieces cut (s ++ t) = init ++ [last ++ t] := by
  induction s with
  | nil => exact ⟨[], [], rfl, pieces_of_uncut ht⟩
  | cons d s ih =>
    obtain ⟨init, last, hs, hst⟩ := ih
    rw [List.cons_append, pieces, pieces, hs, hst]
    split_ifs with hd
    · exact ⟨[] :: init, last, rfl, rfl⟩
    · cases init with
      | nil => exact ⟨[], d :: last, rfl, rfl⟩
      | cons piece init => exact ⟨(d :: piece) :: init, last, rfl, rfl⟩

/-- A character at which a text is not cut is in one of its pieces. -/
theorem exists_mem_pieces {c : Char} {s : List Char} (hc : cut c = false) (h : c ∈ s) :
    ∃ piece ∈ pieces cut s, c ∈ piece := by
  induction s with
  | nil => simp at h
  | cons d s ih =>
    obtain ⟨piece, more, hpieces⟩ := List.exists_cons_of_ne_nil (pieces_ne_nil cut s)
    rw [hpieces] at ih
    rw [pieces, hpieces]
    rcases List.mem_cons.1 h with rfl | h
    · exact ⟨c :: piece, by simp [hc], List.mem_cons_self⟩
    · obtain ⟨p, hp, hmem⟩ := ih h
      split_ifs with hd
      · exact ⟨p, List.mem_cons_of_mem _ hp, hmem⟩
      · rcases List.mem_cons.1 hp with rfl | hp
        · exact ⟨d :: p, List.mem_cons_self, List.mem_cons_of_mem d hmem⟩
        · exact ⟨p, List.mem_cons_of_mem _ hp, hmem⟩

/-- Pieces that are joined come apart again. -/
theorem pieces_joined {c : Char} (hc : cut c = true) {piece : List Char} {more : List (List Char)}
    (h : ∀ p ∈ piece :: more, ∀ d ∈ p, cut d = false) :
    pieces cut (piece ++ more.flatMap (c :: ·)) = piece :: more := by
  induction more generalizing piece with
  | nil => simpa using pieces_of_uncut (h piece List.mem_cons_self)
  | cons next more ih =>
    have hnext := ih fun p hp => h p (List.mem_cons_of_mem piece hp)
    rw [List.flatMap_cons, List.cons_append, pieces_append_cut hc, hnext,
      pieces_of_uncut (h piece List.mem_cons_self)]
    rfl

/-- The pieces of a text have at most its bytes, with one more for each piece but the first. -/
theorem sum_length_pieces_le (cut : Char → Bool) (s : List Char) :
    ((pieces cut s).map fun piece => (utf8 piece).length + 1).sum ≤ (utf8 s).length + 1 := by
  induction s with
  | nil => simp [pieces]
  | cons c s ih =>
    have hpos := length_utf8EncodeChar_pos c
    obtain ⟨piece, more, hpieces⟩ := List.exists_cons_of_ne_nil (pieces_ne_nil cut s)
    rw [hpieces] at ih
    rw [pieces, hpieces]
    simp only [List.map_cons, List.sum_cons] at ih
    split_ifs with hc
    · simp only [List.map_cons, List.sum_cons, utf8_nil, utf8_cons, List.length_nil,
        List.length_append]
      omega
    · simp only [List.map_cons, List.sum_cons, utf8_cons, List.length_append]
      omega

end FabricGauges.Text
