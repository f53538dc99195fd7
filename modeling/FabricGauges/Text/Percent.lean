/-!
# Percent and form encoding

Text travels in a URL as the bytes of its UTF-8 form. A byte outside the safe class is written as
`%` and two upper-case hexadecimal digits; in a form-encoded query a space is written as `+`.
-/

namespace FabricGauges.Text

/-- The UTF-8 bytes of a text. -/
def utf8 (s : List Char) : List UInt8 := s.flatMap String.utf8EncodeChar

/-- One upper-case hexadecimal digit. -/
def hexDigit (n : Nat) : Char :=
  if n < 10 then Char.ofNat ('0'.toNat + n) else Char.ofNat ('A'.toNat + (n - 10))

/-- The value of a hexadecimal digit of either case. -/
def hexValue? (c : Char) : Option Nat :=
  if '0' ≤ c ∧ c ≤ '9' then some (c.toNat - '0'.toNat)
  else if 'a' ≤ c ∧ c ≤ 'f' then some (c.toNat - 'a'.toNat + 10)
  else if 'A' ≤ c ∧ c ≤ 'F' then some (c.toNat - 'A'.toNat + 10)
  else none

namespace Percent

/-- A byte as `%XX`. -/
def encodeByte (b : UInt8) : List Char := ['%', hexDigit (b.toNat / 16), hexDigit (b.toNat % 16)]

/-- A text with the characters of a class replaced by their escaped bytes. -/
def encode (escaped : Char → Bool) (s : List Char) : List Char :=
  s.flatMap fun c => if escaped c then (String.utf8EncodeChar c).flatMap encodeByte else [c]

/-- The bytes that a percent-encoded text stands for; a `%` without two digits stands for itself. -/
def decode : List Char → List UInt8
  | '%' :: a :: b :: rest =>
    match hexValue? a, hexValue? b with
    | some x, some y => UInt8.ofNat (x * 16 + y) :: decode rest
    | _, _ => '%'.toUInt8 :: decode (a :: b :: rest)
  | c :: rest => String.utf8EncodeChar c ++ decode rest
  | [] => []

end Percent

namespace Form

/-- Whether a character stands for itself in a form-encoded query. -/
def isSafe (c : Char) : Bool :=
  c.isAlphanum || c == '*' || c == '-' || c == '.' || c == '_'

/-- The form encoding of one character. -/
def encodeChar (c : Char) : List Char :=
  if c = ' ' then ['+'] else if isSafe c then [c]
  else (String.utf8EncodeChar c).flatMap Percent.encodeByte

/-- The form encoding of a text. -/
def encode (s : List Char) : List Char := s.flatMap encodeChar

/-- The pairs of a query, joined by `&`. -/
def encodePairs : List (String × String) → List Char
  | [] => []
  | [(name, value)] => encode name.toList ++ '=' :: encode value.toList
  | (name, value) :: rest =>
    encode name.toList ++ '=' :: encode value.toList ++ '&' :: encodePairs rest

end Form

end FabricGauges.Text
