import FabricGauges.Proofs.Text.Percent
import FabricGauges.Proofs.Text.Pieces
import FabricGauges.Text.Bytes

/-!
# Reading a form

A form is read by cutting it at each `&` and every piece at its first `=`; empty pieces are passed
over. In a name and in a value a plus sign stands for a space, and then escapes for their bytes.

What is written of a name or a value holds no plus sign but those that stand for spaces, and neither
of the characters at which a form is cut. So the pairs of a form are read as they were, and so are
those that are written behind another form.
-/

namespace FabricGauges.Text.Form

/-! ## How a form is read -/

/-- A character of a form, before escapes are resolved. -/
def unplus (c : Char) : Char := if c = '+' then ' ' else c

/-- The text that a name or a value stands for. -/
def readText (s : List Char) : String := String.ofList (ofBytes (Percent.decode (s.map unplus)))

/-- The name and the value of a piece; without an `=` the value is empty. -/
def readPair (piece : List Char) : String × String :=
  (readText (piece.takeWhile (· ≠ '=')), readText ((piece.dropWhile (· ≠ '=')).drop 1))

/-- The pairs of a form. -/
def readPairs (s : List Char) : List (String × String) :=
  ((pieces (· == '&') s).filter (!·.isEmpty)).map readPair

/-! ## Names and values -/

/-- Escaped bytes hold no plus sign. -/
theorem map_unplus_encodeBytes (bytes : List UInt8) :
    (bytes.flatMap Percent.encodeByte).map unplus = bytes.flatMap Percent.encodeByte := by
  refine (List.map_congr_left fun c hc => ?_).trans (List.map_id _)
  obtain ⟨b, -, hb⟩ := List.mem_flatMap.1 hc
  have hplus : c ≠ '+' := by
    rintro rfl
    exact absurd (Percent.mem_encodeByte hb) (by decide)
  exact if_neg hplus

/-- A character that is written as itself means nothing else in a form. -/
theorem ne_of_isSafe {c : Char} (h : isSafe c = true) : c ≠ '+' ∧ c ≠ '%' ∧ c ≠ '&' ∧ c ≠ '=' := by
  refine ⟨?_, ?_, ?_, ?_⟩ <;> (rintro rfl; exact absurd h (by decide))

/-- What is written of a character is read as the bytes of the character. -/
theorem decode_encodeChar (c : Char) (s : List Char) :
    Percent.decode ((encodeChar c ++ s).map unplus) =
      String.utf8EncodeChar c ++ Percent.decode (s.map unplus) := by
  rw [List.map_append, encodeChar]
  split_ifs with hspace hsafe
  · subst hspace
    exact Percent.decode_cons (by decide) _
  · obtain ⟨hplus, hpercent, -⟩ := ne_of_isSafe hsafe
    rw [List.map_singleton, unplus, if_neg hplus]
    exact Percent.decode_cons hpercent _
  · rw [map_unplus_encodeBytes, Percent.decode_encodeBytes]

/-- What is written of a text is read as the bytes of the text. -/
theorem decode_unplus_encode (s : List Char) :
    Percent.decode ((encode s).map unplus) = utf8 s := by
  induction s with
  | nil => rfl
  | cons c s ih =>
    have hcons : encode (c :: s) = encodeChar c ++ encode s := List.flatMap_cons
    rw [hcons, decode_encodeChar, ih, utf8_cons]

theorem readText_encode (s : String) : readText (encode s.toList) = s := by
  rw [readText, decode_unplus_encode, ofBytes_utf8, String.ofList_toList]

/-- Nothing of what is written of a text is taken for the end of a name or of a pair. -/
theorem ne_of_mem_encode {s : List Char} {c : Char} (h : c ∈ encode s) : c ≠ '&' ∧ c ≠ '=' := by
  obtain ⟨d, -, hd⟩ := List.mem_flatMap.1 h
  rw [encodeChar] at hd
  split_ifs at hd with hspace hsafe
  · rw [List.mem_singleton.1 hd]
    decide
  · rw [List.mem_singleton.1 hd]
    exact (ne_of_isSafe hsafe).2.2
  · obtain ⟨b, -, hb⟩ := List.mem_flatMap.1 hd
    constructor <;> (rintro rfl; exact absurd (Percent.mem_encodeByte hb) (by decide))

/-! ## Pairs -/

/-- A pair as a form writes it. -/
def encodePair (pair : String × String) : List Char :=
  encode pair.1.toList ++ '=' :: encode pair.2.toList

theorem readPair_encodePair (pair : String × String) : readPair (encodePair pair) = pair := by
  have hname : ∀ c ∈ encode pair.1.toList, decide (c ≠ '=') = true := fun c hc =>
    decide_eq_true (ne_of_mem_encode hc).2
  rw [readPair, encodePair, List.takeWhile_append_of_pos hname, List.dropWhile_append_of_pos hname]
  simp [readText_encode]

/-- A form is read in the parts on both sides of a cut. -/
theorem readPairs_append (s t : List Char) :
    readPairs (s ++ '&' :: t) = readPairs s ++ readPairs t := by
  rw [readPairs, pieces_append_cut (by rfl), List.filter_append, List.map_append]
  rfl

example : readPairs "a=1&&b&c=%zz+%26=".toList = [("a", "1"), ("b", ""), ("c", "%zz &=")] := by
  decide +kernel

/-- A single pair is read as it was. -/
theorem readPairs_encodePair (pair : String × String) : readPairs (encodePair pair) = [pair] := by
  have huncut : ∀ c ∈ encodePair pair, (c == '&') = false := by
    intro c hc
    rw [beq_eq_false_iff_ne]
    rcases List.mem_append.1 hc with hname | hvalue
    · exact (ne_of_mem_encode hname).1
    · rcases List.mem_cons.1 hvalue with rfl | hvalue
      · decide
      · exact (ne_of_mem_encode hvalue).1
  have hne : (encodePair pair).isEmpty = false := by simp [encodePair]
  rw [readPairs, pieces_of_uncut huncut, List.filter_singleton, hne]
  simp [readPair_encodePair]

/-- The pairs of a form are read as they were. -/
theorem readPairs_encodePairs (pairs : List (String × String)) :
    readPairs (encodePairs pairs) = pairs := by
  induction pairs with
  | nil => rfl
  | cons pair rest ih =>
    cases rest with
    | nil => exact readPairs_encodePair pair
    | cons next rest =>
      have hcons : encodePairs (pair :: next :: rest) =
          encodePair pair ++ '&' :: encodePairs (next :: rest) := by
        simp [encodePairs, encodePair]
      rw [hcons, readPairs_append, readPairs_encodePair, ih]
      rfl

end FabricGauges.Text.Form
