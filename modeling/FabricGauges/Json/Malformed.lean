/-!
# Malformed JSON text

The ways in which a text fails to be a JSON document. Some of them say that the text ended too
early; the message of each is fixed.
-/

namespace FabricGauges

/-- Why a text is no JSON document. -/
inductive Malformed where
  | endOfList
  | endOfRecord
  | endOfText
  | endOfValue
  | expectedColon
  | expectedListCommaOrEnd
  | expectedRecordCommaOrEnd
  | expectedWord
  | expectedValue
  | invalidEscape
  | invalidNumber
  | numberOutOfRange
  | loneSurrogate
  | unfinishedSurrogatePair
  | controlCharacter
  | notUnicode
  | keyNotText
  | trailingComma
  | trailingCharacters
  | tooDeep
deriving DecidableEq, Repr

namespace Malformed

/-- Whether the text ended before the document did. -/
def isTruncation : Malformed → Bool
  | endOfList | endOfRecord | endOfText | endOfValue => true
  | _ => false

/-- The message of a malformation. -/
def message : Malformed → String
  | endOfList => "EOF while parsing a list"
  | endOfRecord => "EOF while parsing an object"
  | endOfText => "EOF while parsing a string"
  | endOfValue => "EOF while parsing a value"
  | expectedColon => "expected `:`"
  | expectedListCommaOrEnd => "expected `,` or `]`"
  | expectedRecordCommaOrEnd => "expected `,` or `\x7d`"
  | expectedWord => "expected ident"
  | expectedValue => "expected value"
  | invalidEscape => "invalid escape"
  | invalidNumber => "invalid number"
  | numberOutOfRange => "number out of range"
  | loneSurrogate => "lone leading surrogate in hex escape"
  | unfinishedSurrogatePair => "unexpected end of hex escape"
  | controlCharacter => "control character (\\u0000-\\u001F) found while parsing a string"
  | notUnicode => "invalid unicode code point"
  | keyNotText => "key must be a string"
  | trailingComma => "trailing comma"
  | trailingCharacters => "trailing characters"
  | tooDeep => "recursion limit exceeded"

end Malformed

end FabricGauges
