import FabricGauges.Json5.Literal
import FabricGauges.Text.Letters
import FabricGauges.Text.Percent

/-!
# Tokens of the configuration language

An automaton reads the text character by character. A text that is not made of tokens, comments and
blanks has no tokens at all.
-/

namespace FabricGauges.Json5

/-- A token. -/
inductive Token where
  | openList
  | closeList
  | openRecord
  | closeRecord
  | comma
  | colon
  | number (l : Literal)
  | text (components : List Component)
  /-- A name. `plain` is how it is written, if it is written without escapes. -/
  | word (components : List Component) (plain : Option String)

/-! ## Numbers -/

/-- How far a number literal has been read. -/
inductive NumeralPhase where
  | sign
  | zero
  | whole
  /-- A point without digits before it. -/
  | point
  | fraction
  | mark
  | markSign
  | exponent
  | hexadecimalMark
  | hexadecimal
  /-- A name after a sign; `left` is still to come. -/
  | name (left : List Char)
deriving DecidableEq

/-- The part of a number literal read so far. -/
structure Numeral where
  sign : Sign
  phase : NumeralPhase
  digits : Nat
  /-- The number of digits after the point. -/
  places : Nat
  isInteger : Bool
  exponentNegative : Bool
  exponent : Nat
  /-- Whether a hexadecimal digit is an `e`, or the name is that of infinity. -/
  marked : Bool

namespace Numeral

/-- Before the digits. -/
def blank (sign : Sign) : Numeral := ⟨sign, .sign, 0, 0, true, false, 0, false⟩

/-- The value of a decimal digit. -/
def digit (c : Char) : Nat := c.toNat - '0'.toNat

/-- What a character does to a literal. -/
inductive Next where
  | more (n : Numeral)
  | over
  | broken

/-- One more digit after the point. -/
def place (n : Numeral) (c : Char) : Numeral :=
  { n with phase := .fraction, digits := n.digits * 10 + digit c, places := n.places + 1 }

/-- After the integral digits come a point, an exponent or the end. -/
def afterWhole (n : Numeral) (c : Char) : Next :=
  if c = '.' then .more { n with phase := .fraction, isInteger := false }
  else if c = 'e' ∨ c = 'E' then .more { n with phase := .mark, isInteger := false }
  else .over

/-- The first character after the sign. -/
def begin (n : Numeral) (c : Char) : Next :=
  if c = '0' then .more { n with phase := .zero }
  else if c.isDigit then .more { n with phase := .whole, digits := digit c }
  else if c = '.' then .more { n with phase := .point, isInteger := false }
  else if c = 'I' then .more { n with phase := .name "nfinity".toList, marked := true }
  else if c = 'N' then .more { n with phase := .name "aN".toList }
  else .broken

/-- One character further. -/
def next (n : Numeral) (c : Char) : Next :=
  match n.phase with
  | .sign => n.begin c
  | .zero =>
    if c = 'x' ∨ c = 'X' then .more { n with phase := .hexadecimalMark }
    -- no digit may follow a leading zero
    else if c.isDigit then .broken
    else n.afterWhole c
  | .whole =>
    if c.isDigit then .more { n with digits := n.digits * 10 + digit c } else n.afterWhole c
  | .point => if c.isDigit then .more (n.place c) else .broken
  | .fraction =>
    if c.isDigit then .more (n.place c)
    else if c = 'e' ∨ c = 'E' then .more { n with phase := .mark }
    else .over
  | .mark =>
    if c = '+' then .more { n with phase := .markSign }
    else if c = '-' then .more { n with phase := .markSign, exponentNegative := true }
    else if c.isDigit then .more { n with phase := .exponent, exponent := digit c }
    else .broken
  | .markSign =>
    if c.isDigit then .more { n with phase := .exponent, exponent := digit c } else .broken
  | .exponent =>
    if c.isDigit then .more { n with exponent := n.exponent * 10 + digit c } else .over
  | .hexadecimalMark | .hexadecimal =>
    match Text.hexValue? c with
    | some value =>
      .more { n with
        phase := .hexadecimal
        digits := n.digits * 16 + value
        marked := n.marked || value == 14 }
    | none => if n.phase = .hexadecimal then .over else .broken
  | .name [] => .over
  | .name (expected :: left) => if c = expected then .more { n with phase := .name left } else .broken

/-- The magnitude of a literal that may end here. -/
def magnitude? (n : Numeral) : Option Magnitude :=
  match n.phase with
  | .zero | .whole | .fraction | .exponent =>
    let exponent : Int := if n.exponentNegative then -(n.exponent : Int) else n.exponent
    some (.decimal n.digits (exponent - n.places) n.isInteger)
  | .hexadecimal => some (.hexadecimal n.digits n.marked)
  | .name [] => some (if n.marked then .infinity else .nan)
  | _ => none

/-- The literal, if it may end here. -/
def literal? (n : Numeral) : Option Literal := n.magnitude?.map (Literal.mk n.sign)

end Numeral

/-! ## Characters -/

/-- The characters that end a line. -/
def isLineEnd (c : Char) : Bool :=
  c == '\n' || c == '\r' || c.toNat == 0x2028 || c.toNat == 0x2029

/-- The blanks of the language: tabs, spaces of all kinds, line ends and the byte order mark. -/
def isBlank (c : Char) : Bool :=
  isLineEnd c || c == '\t' || c == '\x0b' || c == '\x0c' || c == ' ' || c.toNat == 0xa0 ||
    c.toNat == 0xfeff || c.toNat == 0x1680 || (0x2000 ≤ c.toNat && c.toNat ≤ 0x200a) ||
    c.toNat == 0x202f || c.toNat == 0x205f || c.toNat == 0x3000

/-- Whether a name may begin with a character. -/
def isNameStart (c : Char) : Bool := c == '$' || c == '_' || Text.isLetter c

/-- Whether a character may stand inside a name. -/
def isNamePart (c : Char) : Bool := isNameStart c || Text.isContinuation c

/-- The character that a letter after a backslash stands for; digits, `x` and `u` have rules of
their own. -/
def escaped (c : Char) : Char :=
  match c with
  | 'b' => '\x08'
  | 'f' => '\x0c'
  | 'n' => '\n'
  | 'r' => '\r'
  | 't' => '\t'
  | 'v' => '\x0b'
  | c => c

/-! ## The automaton -/

/-- A text or a name that is being read. -/
structure Content where
  /-- The quote that ends it; a name has none. -/
  quote : Option Char
  /-- The components so far, the latest first. -/
  latest : List Component
  /-- Whether no component is an escape. -/
  isPlain : Bool

/-- What the lexer is inside of. -/
inductive Mode where
  | between
  | slash
  | lineComment
  | blockComment
  | blockCommentStar
  | content (c : Content)
  | escape (c : Content)
  /-- An escaped line end that may still take a line feed. -/
  | lineContinued (c : Content)
  | byte (c : Content) (left : Nat) (value : Nat)
  | unit (c : Content) (left : Nat) (value : Nat)
  | numeral (n : Numeral)

/-- The lexer: what it is inside of, and the tokens it has found, the latest first. -/
structure Lexer where
  mode : Mode
  found : List Token

namespace Content

/-- The content with one more component. -/
def push (content : Content) (c : Component) (isPlain : Bool) : Content :=
  ⟨content.quote, c :: content.latest, content.isPlain && isPlain⟩

/-- A character that stands for itself. -/
def pushChar (content : Content) (c : Char) : Content :=
  content.push (.char c (Text.hexValue? c)) true

/-- How a content without escapes is written. -/
def plain? (content : Content) : Option String :=
  if content.isPlain then
    some <| String.ofList <| content.latest.reverse.filterMap fun c =>
      match c with
      | .char meant _ => some meant
      | .unit _ => none
  else none

/-- The token of a finished text or name. -/
def token (content : Content) : Token :=
  match content.quote with
  | some _ => .text content.latest.reverse
  | none => .word content.latest.reverse content.plain?

end Content

namespace Lexer

/-- Before the first character. -/
def start : Lexer := ⟨.between, []⟩

/-- A token after which the lexer is between tokens. -/
def emit (l : Lexer) (t : Token) : Lexer := ⟨.between, t :: l.found⟩

/-- A character between tokens. -/
def begin (l : Lexer) (c : Char) : Option Lexer :=
  if isBlank c then some ⟨.between, l.found⟩
  else if c = '/' then some ⟨.slash, l.found⟩
  else if c = '[' then some (l.emit .openList)
  else if c = ']' then some (l.emit .closeList)
  else if c = '\x7b' then some (l.emit .openRecord)
  else if c = '\x7d' then some (l.emit .closeRecord)
  else if c = ',' then some (l.emit .comma)
  else if c = ':' then some (l.emit .colon)
  else if c = '"' ∨ c = '\x27' then some ⟨.content ⟨some c, [], true⟩, l.found⟩
  else if c = '+' then some ⟨.numeral (.blank .plus), l.found⟩
  else if c = '-' then some ⟨.numeral (.blank .minus), l.found⟩
  else if c = '.' ∨ c.isDigit then
    match (Numeral.blank .none).begin c with
    | .more n => some ⟨.numeral n, l.found⟩
    | _ => none
  else if c = '\\' then some ⟨.escape ⟨none, [], true⟩, l.found⟩
  else if isNameStart c then some ⟨.content (Content.pushChar ⟨none, [], true⟩ c), l.found⟩
  else none

/-- A character inside a text or a name. -/
def inside (l : Lexer) (content : Content) (c : Char) : Option Lexer :=
  match content.quote with
  | some quote =>
    if c = quote then some (l.emit content.token)
    else if c = '\\' then some ⟨.escape content, l.found⟩
    else if isLineEnd c then none
    else some ⟨.content (content.pushChar c), l.found⟩
  | none =>
    if c = '\\' then some ⟨.escape content, l.found⟩
    else if isNamePart c then some ⟨.content (content.pushChar c), l.found⟩
    -- nothing closes a name, so the character after it is read once more
    else (l.emit content.token).begin c

/-- A character after a backslash. Names know escaped units only. -/
def afterBackslash (l : Lexer) (content : Content) (c : Char) : Option Lexer :=
  if c = 'u' then some ⟨.unit content 4 0, l.found⟩
  else if content.quote.isNone then none
  else if c = 'x' then some ⟨.byte content 2 0, l.found⟩
  -- an escaped line end is no part of the text, be it one character or two
  else if c = '\r' then some ⟨.lineContinued content, l.found⟩
  else if isLineEnd c then some ⟨.content content, l.found⟩
  else if c = '0' then some ⟨.content (content.push (.char '\x00' (some 0)) false), l.found⟩
  else if c.isDigit then none
  else some ⟨.content (content.push (.char (escaped c) (Text.hexValue? c)) false), l.found⟩

/-- One character; a character that fits nowhere leaves nothing. -/
def step (l : Lexer) (c : Char) : Option Lexer :=
  match l.mode with
  | .between => l.begin c
  | .slash =>
    if c = '/' then some ⟨.lineComment, l.found⟩
    else if c = '*' then some ⟨.blockComment, l.found⟩
    else none
  | .lineComment => some ⟨if isLineEnd c then .between else .lineComment, l.found⟩
  | .blockComment => some ⟨if c = '*' then .blockCommentStar else .blockComment, l.found⟩
  | .blockCommentStar =>
    if c = '/' then some ⟨.between, l.found⟩
    else some ⟨if c = '*' then .blockCommentStar else .blockComment, l.found⟩
  | .content content => l.inside content c
  | .escape content => l.afterBackslash content c
  | .lineContinued content =>
    if c = '\n' then some ⟨.content content, l.found⟩ else l.inside content c
  | .byte content left value => do
    let digit ← Text.hexValue? c
    let value := value * 16 + digit
    if left ≤ 1 then
      some ⟨.content (content.push (.char (Char.ofNat value) (some value)) false), l.found⟩
    else some ⟨.byte content (left - 1) value, l.found⟩
  | .unit content left value => do
    let digit ← Text.hexValue? c
    let value := value * 16 + digit
    if left ≤ 1 then some ⟨.content (content.push (.unit value) false), l.found⟩
    else some ⟨.unit content (left - 1) value, l.found⟩
  | .numeral n =>
    match n.next c with
    | .more n => some ⟨.numeral n, l.found⟩
    | .over => do
      let literal ← n.literal?
      (l.emit (.number literal)).begin c
    | .broken => none

/-- The tokens once the text is over. -/
def finish (l : Lexer) : Option (List Token) :=
  match l.mode with
  -- a comment up to the line end may be the last of a text, a block comment has to be closed
  | .between | .lineComment => some l.found.reverse
  | .numeral n => do return (.number (← n.literal?) :: l.found).reverse
  | .content ⟨none, latest, isPlain⟩ =>
    some ((Content.token ⟨none, latest, isPlain⟩ :: l.found).reverse)
  | _ => none

end Lexer

/-- The tokens of a text. -/
def tokens (s : String) : Option (List Token) := do
  let l ← s.toList.foldlM Lexer.step Lexer.start
  l.finish

end FabricGauges.Json5
