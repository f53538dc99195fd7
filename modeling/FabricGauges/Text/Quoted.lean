import FabricGauges.Text.Unprintable

/-!
# Quoted text

A text inside a message stands in double quotes. A quote and a backslash are escaped by a backslash,
the usual controls have letters, and what cannot be seen is written by its code point.
-/

namespace FabricGauges.Text.Quoted

/-- The hexadecimal digits of a number, lower case. -/
def hex (n : Nat) : List Char := Nat.toDigits 16 n

/-- The written form of one character. -/
def encodeChar (c : Char) : List Char :=
  if c = '\x00' then ['\\', '0']
  else if c = '\t' then ['\\', 't']
  else if c = '\r' then ['\\', 'r']
  else if c = '\n' then ['\\', 'n']
  else if c = '"' then ['\\', '"']
  else if c = '\\' then ['\\', '\\']
  else if isUnprintable c then ['\\', 'u', '\x7b'] ++ hex c.toNat ++ ['\x7d']
  else [c]

/-- The written form of a text, without the quotes around it. -/
def encode (s : List Char) : List Char := s.flatMap encodeChar

/-- A text as a message quotes it. -/
def quote (s : String) : String := String.ofList ('"' :: encode s.toList ++ ['"'])

end FabricGauges.Text.Quoted
