import FabricGauges.Text.Percent
import Mathlib.Data.List.Basic

/-!
# Bytes and escapes

What the UTF-8 bytes of a text say about it, and what percent escapes do to them: escaping more of a
text leaves the bytes that it stands for as they are, and a text never stands for more bytes than it
has itself.
-/

namespace FabricGauges.Text

/-! ## The bytes of a text -/

@[simp] theorem utf8_nil : utf8 [] = [] := rfl

@[simp] theorem utf8_cons (c : Char) (s : List Char) :
    utf8 (c :: s) = String.utf8EncodeChar c ++ utf8 s := rfl

@[simp] theorem utf8_append (s t : List Char) : utf8 (s ++ t) = utf8 s ++ utf8 t :=
  List.flatMap_append

/-- Different texts have different bytes. -/
theorem utf8_injective {s t : List Char} (h : utf8 s = utf8 t) : s = t := by
  have hbytes : (String.ofList s).toByteArray = (String.ofList t).toByteArray := by
    rw [String.toByteArray_ofList, String.toByteArray_ofList]
    exact congrArg List.toByteArray h
  have htexts := congrArg String.toList (String.toByteArray_inj.1 hbytes)
  simpa using htexts

/-- Every character has a byte. -/
theorem length_utf8EncodeChar_pos (c : Char) : 0 < (String.utf8EncodeChar c).length := by
  rw [String.length_utf8EncodeChar]
  exact c.utf8Size_pos

/-- A part of a text has no more bytes than the text. -/
theorem length_utf8_le_of_sublist {s t : List Char} (h : s.Sublist t) :
    (utf8 s).length ≤ (utf8 t).length := by
  induction h with
  | slnil => simp
  | cons c _ ih =>
    simp only [utf8_cons, List.length_append]
    omega
  | cons_cons c _ ih =>
    simp only [utf8_cons, List.length_append]
    omega

/-- A part of a text that has all its bytes is the whole text. -/
theorem eq_of_sublist_of_length_utf8 {s t : List Char} (h : s.Sublist t)
    (hlen : (utf8 s).length = (utf8 t).length) : s = t := by
  induction h with
  | slnil => rfl
  | cons c hsub ih =>
    have hpos := length_utf8EncodeChar_pos c
    have hle := length_utf8_le_of_sublist hsub
    simp only [utf8_cons, List.length_append] at hlen
    omega
  | cons_cons c _ ih => rw [ih (by simpa using hlen)]

/-- An ASCII character is its only byte. -/
theorem utf8EncodeChar_of_ascii {c : Char} (h : c.toNat < 0x80) :
    String.utf8EncodeChar c = [UInt8.ofNat c.toNat] := by
  have hv : c.val.toNat ≤ 127 := Nat.le_of_lt_succ h
  simp only [String.utf8EncodeChar, hv, ↓reduceIte]
  rfl

/-- The bytes of a character beyond ASCII are beyond ASCII. -/
theorem le_of_mem_utf8EncodeChar {c : Char} (h : 0x80 ≤ c.toNat) :
    ∀ b ∈ String.utf8EncodeChar c, 0x80 ≤ b.toNat := by
  have hv : ¬ c.val.toNat ≤ 127 := Nat.not_le_of_gt h
  have hbyte : ∀ n m : Nat, 0x80 ≤ m → n + m < 0x100 → 0x80 ≤ (UInt8.ofNat (n + m)).toNat := by
    intro n m hm hlt
    rw [UInt8.toNat_ofNat_of_lt' (by simpa [UInt8.size] using hlt)]
    omega
  -- a leading byte tells how many follow it, and is as large as they are at least
  simp only [String.utf8EncodeChar, hv, ↓reduceIte]
  split_ifs
  all_goals
    simp only [List.forall_mem_cons, List.not_mem_nil, false_implies, implies_true, and_true]
  · exact ⟨hbyte _ _ (by decide) (by omega), hbyte _ _ (by decide) (by omega)⟩
  · exact ⟨hbyte _ _ (by decide) (by omega), hbyte _ _ (by decide) (by omega),
      hbyte _ _ (by decide) (by omega)⟩
  · exact ⟨hbyte _ _ (by decide) (by omega), hbyte _ _ (by decide) (by omega),
      hbyte _ _ (by decide) (by omega), hbyte _ _ (by decide) (by omega)⟩

/-- An ASCII byte of a text is one of its characters. -/
theorem mem_of_mem_utf8 {s : List Char} {b : UInt8} (hb : b ∈ utf8 s) (h : b.toNat < 0x80) :
    ∃ c ∈ s, c.toNat = b.toNat := by
  obtain ⟨c, hc, hbc⟩ := List.mem_flatMap.1 hb
  refine ⟨c, hc, ?_⟩
  by_cases hascii : c.toNat < 0x80
  · rw [utf8EncodeChar_of_ascii hascii, List.mem_singleton] at hbc
    rw [hbc, UInt8.toNat_ofNat_of_lt' (by simp [UInt8.size]; omega)]
  · exact absurd (le_of_mem_utf8EncodeChar (Nat.le_of_not_lt hascii) b hbc) (by omega)

/-- A text whose bytes end in one of ASCII ends in the character of that byte. -/
theorem getLast?_of_utf8_eq {s : List Char} {bytes : List UInt8} {c : Char} (hc : c.toNat < 0x80)
    (h : utf8 s = bytes ++ String.utf8EncodeChar c) : s.getLast? = some c := by
  rcases List.eq_nil_or_concat s with rfl | ⟨s, d, rfl⟩
  · have hempty := congrArg List.length h
    have hpos := length_utf8EncodeChar_pos c
    simp only [utf8_nil, List.length_nil, List.length_append] at hempty
    omega
  · rw [List.concat_eq_append, utf8_append, utf8_cons, utf8_nil, List.append_nil] at h
    have hlast := congrArg List.getLast? h
    rw [utf8EncodeChar_of_ascii hc] at hlast
    -- the last byte of a character that is not of ASCII is not of ASCII
    by_cases hd : d.toNat < 0x80
    · rw [utf8EncodeChar_of_ascii hd] at hlast
      have hbyte : UInt8.ofNat d.toNat = UInt8.ofNat c.toNat := by simpa using hlast
      have hnat := congrArg UInt8.toNat hbyte
      rw [UInt8.toNat_ofNat_of_lt' (by simp [UInt8.size]; omega),
        UInt8.toNat_ofNat_of_lt' (by simp [UInt8.size]; omega)] at hnat
      have hdc : d = c := by
        rw [← Char.ofNat_toNat d, ← Char.ofNat_toNat c, hnat]
      simp [hdc]
    · obtain ⟨b, hb⟩ : ∃ b, (String.utf8EncodeChar d).getLast? = some b :=
        Option.isSome_iff_exists.1 (by simp)
      have hle := le_of_mem_utf8EncodeChar (Nat.le_of_not_lt hd) b (List.mem_of_getLast? hb)
      rw [List.getLast?_append, hb] at hlast
      have hbc : b = UInt8.ofNat c.toNat := by simpa using hlast
      have hnat : b.toNat = c.toNat := by
        rw [hbc, UInt8.toNat_ofNat_of_lt' (by simp [UInt8.size]; omega)]
      omega

/-! ## Digits -/

theorem hexValue?_hexDigit : ∀ n < 16, hexValue? (hexDigit n) = some n := by decide

/-- A percent sign is no digit. -/
theorem hexValue?_percent : hexValue? '%' = none := by decide

namespace Percent

/-! ## Resolving escapes -/

/-- Whether a text begins with two digits. -/
def startsWithByte : List Char → Bool
  | a :: b :: _ => (hexValue? a).isSome && (hexValue? b).isSome
  | _ => false

theorem decode_cons {c : Char} (h : c ≠ '%') (s : List Char) :
    decode (c :: s) = String.utf8EncodeChar c ++ decode s := by
  rw [decode]
  rintro a b rest rfl
  exact absurd rfl h

/-- A percent sign without two digits behind it stands for itself. -/
theorem decode_percent {s : List Char} (h : startsWithByte s = false) :
    decode ('%' :: s) = String.utf8EncodeChar '%' ++ decode s := by
  match s with
  | [] | [_] => rfl
  | a :: b :: rest =>
    rw [decode]
    split
    · simp_all [startsWithByte]
    · rfl

/-- A percent sign and two digits stand for one byte. -/
theorem decode_byte {a b : Char} {x y : Nat} (ha : hexValue? a = some x) (hb : hexValue? b = some y)
    (s : List Char) : decode ('%' :: a :: b :: s) = UInt8.ofNat (x * 16 + y) :: decode s := by
  rw [decode, ha, hb]

/-- How a text is read: as the byte of an escape, as a percent sign that begins none, or as some
other character, and then what follows. -/
theorem decode_induction {motive : List Char → Prop} (nil : motive [])
    (byte : ∀ a b x y rest, hexValue? a = some x → hexValue? b = some y → motive rest →
      motive ('%' :: a :: b :: rest))
    (percent : ∀ rest, startsWithByte rest = false → motive rest → motive ('%' :: rest))
    (char : ∀ c rest, c ≠ '%' → motive rest → motive (c :: rest)) (s : List Char) : motive s := by
  -- the reader looks two characters ahead, so a short rest is a case of its own
  induction s using decode.induct with
  | case1 a b rest x y hb ha ih => exact byte a b x y rest ha hb ih
  | case2 a b rest hab ih =>
    refine percent (a :: b :: rest) ?_ ih
    cases ha : hexValue? a with
    | none => simp [startsWithByte, ha]
    | some x =>
      cases hb : hexValue? b with
      | none => simp [startsWithByte, hb]
      | some y => exact (hab x y ha hb).elim
  | case3 c rest hshort ih =>
    by_cases hc : c = '%'
    · subst hc
      match rest with
      | [] | [_] => exact percent _ rfl ih
      | a :: b :: rest => exact (hshort a b rest rfl rfl).elim
    · exact char c rest hc ih
  | case4 => exact nil

/-- A text stands for its own bytes, or for fewer. -/
theorem decode_eq_or_length_lt (s : List Char) :
    decode s = utf8 s ∨ (decode s).length < (utf8 s).length := by
  induction s using decode_induction with
  | nil => exact .inl rfl
  | byte a b x y rest ha hb ih =>
    have hpos := length_utf8EncodeChar_pos '%'
    have hpos_a := length_utf8EncodeChar_pos a
    right
    rw [decode_byte ha hb]
    simp only [utf8_cons, List.length_append, List.length_cons]
    rcases ih with ih | ih
    · rw [ih]
      omega
    · omega
  | percent rest h ih =>
    rw [decode_percent h, utf8_cons]
    simpa using ih
  | char c rest h ih =>
    rw [decode_cons h, utf8_cons]
    simpa using ih

/-- A text that is not empty stands for a byte at least. -/
theorem length_decode_pos {s : List Char} (h : s ≠ []) : 0 < (decode s).length := by
  cases s using decode_induction with
  | nil => exact absurd rfl h
  | byte a b x y rest ha hb =>
    rw [decode_byte ha hb]
    simp
  | percent rest hrest =>
    rw [decode_percent hrest, List.length_append]
    exact Nat.add_pos_left (length_utf8EncodeChar_pos '%') _
  | char c rest hc =>
    rw [decode_cons hc, List.length_append]
    exact Nat.add_pos_left (length_utf8EncodeChar_pos c) _

/-- A character that is no digit is read by itself after any text. -/
theorem decode_concat {c : Char} (hc : hexValue? c = none) (s : List Char) :
    decode (s ++ [c]) = decode s ++ String.utf8EncodeChar c := by
  have hlast : decode [c] = String.utf8EncodeChar c := by
    by_cases h : c = '%'
    · rw [h, decode_percent rfl]
      rfl
    · rw [decode_cons h]
      exact List.append_nil _
  induction s using decode_induction with
  | nil => exact hlast
  | byte a b x y rest ha hb ih =>
    simp only [List.cons_append, decode_byte ha hb, ih]
  | percent rest h ih =>
    have hstart : startsWithByte (rest ++ [c]) = false := by
      match rest with
      | [] => rfl
      | [a] => simp [startsWithByte, hc]
      | a :: b :: rest => exact h
    rw [List.cons_append, decode_percent hstart, decode_percent h, ih, List.append_assoc]
  | char c' rest h ih =>
    rw [List.cons_append, decode_cons h, decode_cons h, ih, List.append_assoc]

/-! ## Writing escapes -/

/-- A class of characters that may be escaped: none of them is a part of an escape itself. -/
def Escapable (escaped : Char → Bool) : Prop :=
  ∀ c, escaped c = true → c ≠ '%' ∧ hexValue? c = none

@[simp] theorem encode_nil (escaped : Char → Bool) : encode escaped [] = [] := rfl

@[simp] theorem encode_append (escaped : Char → Bool) (s t : List Char) :
    encode escaped (s ++ t) = encode escaped s ++ encode escaped t := List.flatMap_append

theorem encode_cons_of_escaped {escaped : Char → Bool} {c : Char} (h : escaped c = true)
    (s : List Char) :
    encode escaped (c :: s) =
      (String.utf8EncodeChar c).flatMap encodeByte ++ encode escaped s := by
  simp [encode, h]

theorem encode_cons_of_not_escaped {escaped : Char → Bool} {c : Char} (h : escaped c = false)
    (s : List Char) : encode escaped (c :: s) = c :: encode escaped s := by
  simp [encode, h]

/-- An escape begins with a percent sign. -/
theorem exists_encode_of_escaped {escaped : Char → Bool} {c : Char} (h : escaped c = true)
    (s : List Char) : ∃ t, encode escaped (c :: s) = '%' :: t := by
  rw [encode_cons_of_escaped h]
  obtain ⟨b, bytes, hbytes⟩ := List.exists_cons_of_ne_nil (@String.utf8EncodeChar_ne_nil c)
  rw [hbytes]
  exact ⟨_, rfl⟩

/-- Nothing is lost when a text is escaped. -/
theorem encode_eq_nil {escaped : Char → Bool} {s : List Char} (h : encode escaped s = []) :
    s = [] := by
  cases s with
  | nil => rfl
  | cons c s =>
    cases hc : escaped c with
    | true =>
      obtain ⟨t, ht⟩ := exists_encode_of_escaped hc s
      simp [ht] at h
    | false => simp [encode_cons_of_not_escaped hc] at h

/-- The bytes of an escaped text come back. -/
theorem decode_encodeBytes (bytes : List UInt8) (s : List Char) :
    decode (bytes.flatMap encodeByte ++ s) = bytes ++ decode s := by
  induction bytes with
  | nil => rfl
  | cons b bytes ih =>
    have hb : b.toNat < 256 := b.toNat_lt
    have hhigh := hexValue?_hexDigit (b.toNat / 16) (by omega)
    have hlow := hexValue?_hexDigit (b.toNat % 16) (by omega)
    have hbyte : UInt8.ofNat (b.toNat / 16 * 16 + b.toNat % 16) = b := by
      rw [Nat.div_add_mod', UInt8.ofNat_toNat]
    simp only [List.flatMap_cons, encodeByte, List.cons_append, List.nil_append]
    rw [decode_byte hhigh hlow, hbyte, ih]

theorem not_escaped_of_hexValue? {escaped : Char → Bool} (he : Escapable escaped) {c : Char} {x : Nat}
    (h : hexValue? c = some x) : escaped c = false := by
  by_contra hc
  have hnone := (he c (by simpa using hc)).2
  simp [hnone] at h

theorem startsWithByte_cons_of_none {a : Char} (h : hexValue? a = none) (s : List Char) :
    startsWithByte (a :: s) = false := by
  cases s <;> simp [startsWithByte, h]

/-- An escaped text begins with two digits only if the text does. -/
theorem startsWithByte_encode {escaped : Char → Bool} (he : Escapable escaped) {s : List Char}
    (h : startsWithByte s = false) : startsWithByte (encode escaped s) = false := by
  -- What is not a digit is kept, or becomes a percent sign, which is no digit either.
  have hfirst {a : Char} (ha : hexValue? a = none) (s : List Char) :
      ∃ b t, encode escaped (a :: s) = b :: t ∧ hexValue? b = none := by
    cases hesc : escaped a with
    | true =>
      obtain ⟨t, ht⟩ := exists_encode_of_escaped hesc s
      exact ⟨'%', t, ht, hexValue?_percent⟩
    | false => exact ⟨a, _, encode_cons_of_not_escaped hesc s, ha⟩
  match s with
  | [] => rfl
  | a :: rest =>
    cases ha : hexValue? a with
    | none =>
      obtain ⟨b, t, ht, hb⟩ := hfirst ha rest
      rw [ht]
      exact startsWithByte_cons_of_none hb t
    | some x =>
      rw [encode_cons_of_not_escaped (not_escaped_of_hexValue? he ha)]
      match rest with
      | [] => rfl
      | b :: rest =>
        have hb : hexValue? b = none := by simpa [startsWithByte, ha] using h
        obtain ⟨c, t, ht, hc⟩ := hfirst hb rest
        simp [ht, startsWithByte, hc]

/-- Escaping leaves the bytes that a text stands for as they are. -/
theorem decode_encode {escaped : Char → Bool} (he : Escapable escaped) (s : List Char) :
    decode (encode escaped s) = decode s := by
  have hpercent : escaped '%' = false := by
    by_contra hc
    exact (he '%' (by simpa using hc)).1 rfl
  induction s using decode_induction with
  | nil => rfl
  | byte a b x y rest ha hb ih =>
    rw [encode_cons_of_not_escaped hpercent,
      encode_cons_of_not_escaped (not_escaped_of_hexValue? he ha),
      encode_cons_of_not_escaped (not_escaped_of_hexValue? he hb), decode_byte ha hb,
      decode_byte ha hb, ih]
  | percent rest h ih =>
    rw [encode_cons_of_not_escaped hpercent, decode_percent (startsWithByte_encode he h),
      decode_percent h, ih]
  | char c rest h ih =>
    rw [decode_cons h]
    cases hc : escaped c with
    | true => rw [encode_cons_of_escaped hc, decode_encodeBytes, ih]
    | false => rw [encode_cons_of_not_escaped hc, decode_cons h, ih]

/-- A character of an escaped byte is a percent sign or a digit. -/
theorem mem_encodeByte {b : UInt8} {c : Char} (h : c ∈ encodeByte b) :
    c = '%' ∨ (hexValue? c).isSome := by
  have hlt : b.toNat < 256 := b.toNat_lt
  have hhigh := hexValue?_hexDigit (b.toNat / 16) (by omega)
  have hlow := hexValue?_hexDigit (b.toNat % 16) (by omega)
  simp only [encodeByte, List.mem_cons, List.not_mem_nil, or_false] at h
  rcases h with rfl | rfl | rfl
  · exact .inl rfl
  · exact .inr (by simp [hhigh])
  · exact .inr (by simp [hlow])

/-- A character of an escaped text is one that was kept, or a part of an escape. -/
theorem mem_encode {escaped : Char → Bool} {c : Char} {s : List Char} (h : c ∈ encode escaped s) :
    (c ∈ s ∧ escaped c = false) ∨ c = '%' ∨ (hexValue? c).isSome := by
  obtain ⟨d, hd, hmem⟩ := List.mem_flatMap.1 h
  split_ifs at hmem with hesc
  · obtain ⟨b, -, hb⟩ := List.mem_flatMap.1 hmem
    exact .inr (mem_encodeByte hb)
  · rw [List.mem_singleton] at hmem
    subst hmem
    exact .inl ⟨hd, by simpa using hesc⟩

end Percent

end FabricGauges.Text
