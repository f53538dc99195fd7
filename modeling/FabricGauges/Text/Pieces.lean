/-!
# Pieces of a text

A text cut at every character of a class. There is always one piece more than there are cuts, so
that joining the pieces again gives the text back.
-/

namespace FabricGauges.Text

/-- The pieces of a text between the characters at which it is cut. -/
def pieces (cut : Char → Bool) : List Char → List (List Char)
  | [] => [[]]
  | c :: rest =>
    if cut c then [] :: pieces cut rest
    else match pieces cut rest with
      | [] => [[c]]
      | piece :: more => (c :: piece) :: more

theorem pieces_ne_nil (cut : Char → Bool) (s : List Char) : pieces cut s ≠ [] := by
  fun_induction pieces cut s <;> simp

/-- No piece holds a character at which the text is cut. -/
theorem not_cut_of_mem_pieces {cut : Char → Bool} {s piece : List Char} {c : Char}
    (h : piece ∈ pieces cut s) (hc : c ∈ piece) : cut c = false := by
  fun_induction pieces cut s generalizing piece with
  | case1 => simp_all
  | case2 c rest hcut ih =>
    rcases List.mem_cons.1 h with rfl | h
    · simp at hc
    · exact ih h hc
  | case3 c' rest hcut hnil ih => exact absurd hnil (pieces_ne_nil cut rest)
  | case4 c' rest hcut piece' more heq ih =>
    rcases List.mem_cons.1 h with rfl | h
    · rcases List.mem_cons.1 hc with rfl | hc
      · simpa using hcut
      · exact ih (heq ▸ List.mem_cons_self) hc
    · exact ih (heq ▸ List.mem_cons_of_mem _ h) hc

end FabricGauges.Text
