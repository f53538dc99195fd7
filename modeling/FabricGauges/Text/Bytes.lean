import FabricGauges.Text.Percent

/-!
# Text from bytes

Bytes are read as UTF-8. Where they are only shown, one replacement stands for bytes that begin a
character and are broken off, or else for a single byte at which no character begins.
-/

namespace FabricGauges.Text

/-- The text whose UTF-8 form some bytes are. -/
def ofUtf8? (bytes : List UInt8) : Option String := String.fromUTF8? bytes.toByteArray

/-- The UTF-8 form of a text is read as the text. -/
theorem ofUtf8?_utf8 (s : String) : ofUtf8? (utf8 s.toList) = some s := by
  have hbytes : (utf8 s.toList).toByteArray = s.toByteArray := by
    have htext := String.toByteArray_ofList (l := s.toList)
    rw [String.ofList_toList] at htext
    exact htext.symm
  rw [ofUtf8?, hbytes, String.fromUTF8?, dif_pos s.isValidUTF8]
  rfl

/-- The character that some bytes begin with. -/
def firstChar? (bytes : List UInt8) : Option Char := ByteArray.utf8DecodeChar? bytes.toByteArray 0

/-- Whether one or two further bytes could complete a character. -/
def isBrokenOff (bytes : List UInt8) : Bool :=
  [[0x80], [0x80, 0x80]].any fun more =>
    (firstChar? (bytes ++ more)).any (·.utf8Size == (bytes ++ more).length)

/-- The number of bytes that are replaced together where no character begins. -/
def brokenLength (bytes : List UInt8) : Nat :=
  if isBrokenOff (bytes.take 3) then 3 else if isBrokenOff (bytes.take 2) then 2 else 1

theorem brokenLength_pos (bytes : List UInt8) : 0 < brokenLength bytes := by
  unfold brokenLength
  split
  · decide
  · split <;> decide

/-- What stands for bytes that are no character. -/
def replacement : Char := '\uFFFD'

/-- The text that some bytes are shown as. -/
def ofBytes (bytes : List UInt8) : List Char :=
  if bytes.isEmpty then []
  else match firstChar? bytes with
    | some c => c :: ofBytes (bytes.drop c.utf8Size)
    | none => replacement :: ofBytes (bytes.drop (brokenLength bytes))
termination_by bytes.length
decreasing_by
  all_goals
    have hpos : 0 < bytes.length := List.length_pos_iff.2 (by simpa using ‹¬bytes.isEmpty›)
    rw [List.length_drop]
  · exact Nat.sub_lt hpos c.utf8Size_pos
  · exact Nat.sub_lt hpos (brokenLength_pos bytes)

/-- The UTF-8 form of a text begins with its first character. -/
theorem firstChar?_utf8_cons (c : Char) (rest : List Char) :
    firstChar? (utf8 (c :: rest)) = some c := by
  rw [firstChar?, utf8, List.flatMap_cons, List.toByteArray_append]
  exact ByteArray.utf8DecodeChar?_utf8EncodeChar_append

theorem isEmpty_utf8_cons (c : Char) (rest : List Char) : (utf8 (c :: rest)).isEmpty = false := by
  rw [List.isEmpty_eq_false_iff, utf8, List.flatMap_cons, ne_eq, List.append_eq_nil_iff]
  exact fun h => String.utf8EncodeChar_ne_nil h.1

/-- Behind the bytes of the first character come those of the others. -/
theorem drop_utf8_cons (c : Char) (rest : List Char) :
    (utf8 (c :: rest)).drop c.utf8Size = utf8 rest := by
  rw [utf8, List.flatMap_cons, ← String.length_utf8EncodeChar c, List.drop_left]
  rfl

/-- The UTF-8 form of a text is shown as the text. -/
theorem ofBytes_utf8 (s : List Char) : ofBytes (utf8 s) = s := by
  induction s with
  | nil => rw [utf8, List.flatMap_nil, ofBytes, List.isEmpty_nil, if_pos rfl]
  | cons c rest ih =>
    rw [ofBytes, isEmpty_utf8_cons, firstChar?_utf8_cons]
    show c :: ofBytes ((utf8 (c :: rest)).drop c.utf8Size) = c :: rest
    rw [drop_utf8_cons, ih]

example : ofBytes [0xF0, 0x90, 0x41, 0xE0, 0x80] = [replacement, 'A', replacement, replacement] := by
  decide +kernel

/-- The characters of some bytes, and `none` for each byte at which no character begins. -/
def symbols (bytes : List UInt8) : List (Option Char) :=
  if bytes.isEmpty then []
  else match firstChar? bytes with
    | some c => some c :: symbols (bytes.drop c.utf8Size)
    | none => none :: symbols (bytes.drop 1)
termination_by bytes.length
decreasing_by
  all_goals
    have hpos : 0 < bytes.length := List.length_pos_iff.2 (by simpa using ‹¬bytes.isEmpty›)
    rw [List.length_drop]
  · exact Nat.sub_lt hpos c.utf8Size_pos
  · exact Nat.sub_lt hpos Nat.one_pos

/-- The UTF-8 form of a text has the characters of the text. -/
theorem symbols_utf8 (s : List Char) : symbols (utf8 s) = s.map some := by
  induction s with
  | nil => rw [utf8, List.flatMap_nil, symbols, List.isEmpty_nil, if_pos rfl, List.map_nil]
  | cons c rest ih =>
    rw [symbols, isEmpty_utf8_cons, firstChar?_utf8_cons]
    show some c :: symbols ((utf8 (c :: rest)).drop c.utf8Size) = (c :: rest).map some
    rw [drop_utf8_cons, ih, List.map_cons]

end FabricGauges.Text
