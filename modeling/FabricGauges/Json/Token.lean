import FabricGauges.Decimal.Scaled
import FabricGauges.Json.Basic
import FabricGauges.Json.Malformed
import FabricGauges.Text.Blank
import FabricGauges.Text.Bytes

/-!
# Tokens of a JSON text

An automaton reads the text character by character. A scalar token says two things: what a reader
finds in it, and whether a reader that only passes over it can go on. The two differ: a lone
surrogate, a byte at which no character begins or a number beyond the range of doubles is broken to
the first and harmless to the second. Nothing follows a token that cannot be passed over.

The digits of a number are kept as long as a 64-bit word has room for them. Those that it has no
room for count before the point and are ignored behind it.
-/

namespace FabricGauges.Json

/-- A scalar other than a text. -/
inductive Leaf where
  | null
  | bool (value : Bool)
  | number (value : Number)
deriving DecidableEq

/-- Whether the same has been read. -/
instance decEqRead {α : Type} [DecidableEq α] : DecidableEq (Except Malformed α)
  | .ok a, .ok b => decidable_of_iff (a = b) ⟨congrArg _, Except.ok.inj⟩
  | .error a, .error b => decidable_of_iff (a = b) ⟨congrArg _, Except.error.inj⟩
  | .ok _, .error _ | .error _, .ok _ => .isFalse nofun

/-- A token. `read` is what it holds, `blocked` why it cannot even be passed over. -/
inductive Token where
  | openList
  | closeList
  | openRecord
  | closeRecord
  | comma
  | colon
  | text (read : Except Malformed String) (blocked : Option Malformed)
  | leaf (read : Except Malformed Leaf) (blocked : Option Malformed)
  | stray
deriving DecidableEq

/-! ## Numbers -/

/-- How far a number literal has been read. -/
inductive NumberPhase where
  | sign
  | zero
  | whole
  /-- Integral digits for which the significand has no room. -/
  | long
  | point
  | fraction
  /-- Digits after the point for which the significand has no room. -/
  | surplus
  | mark
  | markSign
  | exponent
deriving DecidableEq

/-- The part of a number literal read so far. -/
structure Numeral where
  negative : Bool
  phase : NumberPhase
  significand : UInt64
  /-- The power of ten of the significand's last digit. -/
  scale : Int
  exponentNegative : Bool
  exponent : Nat

namespace Numeral

/-- The value of a decimal digit. -/
def digit (c : Char) : Nat := c.toNat - '0'.toNat

/-- The literal that begins with a minus sign or a digit. -/
def start (c : Char) : Numeral :=
  if c = '-' then ⟨true, .sign, 0, 0, false, 0⟩
  else ⟨false, if c = '0' then .zero else .whole, .ofNat (digit c), 0, false, 0⟩

/-- The significand with one more digit, if there is room for it. -/
def push? (n : Numeral) (c : Char) : Option UInt64 :=
  let pushed := n.significand.toNat * 10 + digit c
  if pushed < UInt64.size then some (.ofNat pushed) else none

/-- What a character does to a literal. -/
inductive Next where
  | more (n : Numeral)
  | over
  | broken

/-- One character further. -/
def next (n : Numeral) (c : Char) : Next :=
  match n.phase with
  | .sign =>
    if c = '0' then .more { n with phase := .zero }
    else if c.isDigit then .more { n with phase := .whole, significand := .ofNat (digit c) }
    else .broken
  | .zero => if c.isDigit then .broken else afterWhole n c
  | .whole =>
    if c.isDigit then
      match n.push? c with
      | some significand => .more { n with significand }
      -- from here on the digits only count, this one included
      | none => .more { n with phase := .long, scale := 1 }
    else afterWhole n c
  | .long => if c.isDigit then .more { n with scale := n.scale + 1 } else afterWhole n c
  | .point => if c.isDigit then .more (place n c) else .broken
  | .fraction => if c.isDigit then .more (place n c) else afterFraction n c
  | .surplus => if c.isDigit then .more n else afterFraction n c
  | .mark =>
    if c = '+' then .more { n with phase := .markSign }
    else if c = '-' then .more { n with phase := .markSign, exponentNegative := true }
    else if c.isDigit then .more { n with phase := .exponent, exponent := digit c }
    else .broken
  | .markSign =>
    if c.isDigit then .more { n with phase := .exponent, exponent := digit c } else .broken
  | .exponent =>
    if c.isDigit then .more { n with exponent := n.exponent * 10 + digit c } else .over
where
  /-- After the integral digits come a point, an exponent or the end. -/
  afterWhole (n : Numeral) (c : Char) : Next :=
    if c = '.' then .more { n with phase := .point } else afterFraction n c
  /-- After the digits comes an exponent or the end. -/
  afterFraction (n : Numeral) (c : Char) : Next :=
    if c = 'e' ∨ c = 'E' then .more { n with phase := .mark } else .over
  /-- One more digit after the point. -/
  place (n : Numeral) (c : Char) : Numeral :=
    match n.push? c with
    | some significand => { n with phase := .fraction, significand, scale := n.scale - 1 }
    | none => { n with phase := .surplus }

/-- The double that the literal is read as. -/
def double? (n : Numeral) : Option Double :=
  let exponent : Int := if n.exponentNegative then -(n.exponent : Int) else n.exponent
  Double.ofScaled? n.negative n.significand.toNat (n.scale + exponent)

/-- Whether the literal is an integer that a 64-bit word holds; `-0` is none. -/
def integer? (n : Numeral) : Option Int :=
  match n.phase with
  | .zero | .whole =>
    let magnitude := n.significand.toNat
    if !n.negative then some magnitude
    -- a minus sign before a zero makes a double, since an integer would lose it
    else if 0 < magnitude ∧ magnitude ≤ Int64.minValue.toInt.natAbs then some (-(magnitude : Int))
    else none
  | _ => none

/-- The number that a finished literal stands for. -/
def number? (n : Numeral) : Option Number :=
  match n.integer? with
  | some i => some (.integer i)
  | none => n.double?.map .double

/-- Whether the literal could end here. -/
def isComplete (n : Numeral) : Bool :=
  match n.phase with
  | .zero | .whole | .long | .fraction | .surplus | .exponent => true
  | _ => false

/-- The token of a finished literal. -/
def token (n : Numeral) : Token :=
  match n.number? with
  | some value => .leaf (.ok (.number value)) none
  | none => .leaf (.error .numberOutOfRange) none

/-- The token when the text ends inside the literal. -/
def last (n : Numeral) : Token :=
  if n.isComplete then n.token else .leaf (.error .endOfValue) (some .invalidNumber)

end Numeral

/-! ## Texts -/

/-- The content of a text literal read so far, the latest character first; `none` is a byte at which
no character begins. -/
inductive Content where
  | chars (latest : List (Option Char))
  /-- A leading surrogate waits for its other half. -/
  | half (latest : List (Option Char)) (lead : Nat)
  | broken (fault : Malformed)

namespace Content

/-- One character that stands for itself, or a byte of none. -/
def push (c : Option Char) : Content → Content
  | chars latest => chars (c :: latest)
  | half _ _ => broken .unfinishedSurrogatePair
  | broken fault => broken fault

/-- One UTF-16 unit given by an escape. -/
def pushUnit (unit : Nat) : Content → Content
  | chars latest =>
    if 0xdc00 ≤ unit ∧ unit ≤ 0xdfff then broken .loneSurrogate
    else if 0xd800 ≤ unit ∧ unit ≤ 0xdbff then half latest unit
    else chars (some (Char.ofNat unit) :: latest)
  | half latest lead =>
    if 0xdc00 ≤ unit ∧ unit ≤ 0xdfff then
      chars (some (Char.ofNat (0x10000 + (lead - 0xd800) * 0x400 + (unit - 0xdc00))) :: latest)
    else broken .loneSurrogate
  | broken fault => broken fault

/-- The text, once its closing quote has been read. Whether all its bytes are characters is looked
at last. -/
def finish : Content → Except Malformed String
  | chars latest =>
    match latest.reverse.mapM id with
    | some cs => .ok (String.ofList cs)
    | none => .error .notUnicode
  | half _ _ => .error .unfinishedSurrogatePair
  | broken fault => .error fault

/-- The token of a text that cannot be read on; a fault found earlier comes first. -/
def stop (content : Content) (fault : Malformed) : Token :=
  match content with
  | broken earlier => .text (.error earlier) (some fault)
  | _ => .text (.error fault) (some fault)

end Content

/-- The character that a letter after a backslash stands for. -/
def escaped? (c : Char) : Option Char :=
  match c with
  | '"' => some '"'
  | '\\' => some '\\'
  | '/' => some '/'
  | 'b' => some '\x08'
  | 'f' => some '\x0c'
  | 'n' => some '\n'
  | 'r' => some '\r'
  | 't' => some '\t'
  | _ => none

/-! ## The automaton -/

/-- What the lexer is inside of. -/
inductive Mode where
  | between
  | text (content : Content)
  | escape (content : Content)
  /-- `left` digits of an escaped unit are still to come. -/
  | unit (content : Content) (left : Nat) (value : Nat)
  /-- A broken unit: it is a broken escape once its four bytes are there. -/
  | brokenUnit (content : Content) (bytes : Nat)
  | numeral (n : Numeral)
  | word (left : List Char) (leaf : Leaf)
  | stopped

/-- The lexer: what it is inside of, and the tokens it has found, the latest first. -/
structure Lexer where
  mode : Mode
  found : List Token

namespace Lexer

/-- Before the first character. -/
def start : Lexer := ⟨.between, []⟩

/-- A token after which the lexer is between tokens. -/
def emit (l : Lexer) (t : Token) : Lexer := ⟨.between, t :: l.found⟩

/-- A token that cannot be passed over: the lexer stops. -/
def halt (l : Lexer) (t : Token) : Lexer := ⟨.stopped, t :: l.found⟩

/-- A character between tokens. -/
def begin (l : Lexer) (c : Char) : Lexer :=
  if Text.isDocumentBlank c then ⟨.between, l.found⟩
  else if c = '[' then l.emit .openList
  else if c = ']' then l.emit .closeList
  else if c = '\x7b' then l.emit .openRecord
  else if c = '\x7d' then l.emit .closeRecord
  else if c = ',' then l.emit .comma
  else if c = ':' then l.emit .colon
  else if c = '"' then ⟨.text (.chars []), l.found⟩
  else if c = '-' ∨ c.isDigit then ⟨.numeral (.start c), l.found⟩
  else if c = 'n' then ⟨.word ['u', 'l', 'l'] .null, l.found⟩
  else if c = 't' then ⟨.word ['r', 'u', 'e'] (.bool true), l.found⟩
  else if c = 'f' then ⟨.word ['a', 'l', 's', 'e'] (.bool false), l.found⟩
  else l.emit .stray

/-- The bytes of a broken unit: the fault is decided once four are seen. -/
def breakUnit (l : Lexer) (content : Content) (bytes : Nat) (c : Char) : Lexer :=
  if bytes ≤ c.utf8Size then l.halt (content.stop .invalidEscape)
  else ⟨.brokenUnit content (bytes - c.utf8Size), l.found⟩

/-- One character. -/
def step (l : Lexer) (c : Char) : Lexer :=
  match l.mode with
  | .between => l.begin c
  | .text content =>
    if c = '"' then l.emit (.text content.finish none)
    else if c = '\\' then ⟨.escape content, l.found⟩
    else if c.toNat < 0x20 then l.halt (content.stop .controlCharacter)
    else ⟨.text (content.push (some c)), l.found⟩
  | .escape content =>
    if c = 'u' then ⟨.unit content 4 0, l.found⟩
    else match escaped? c with
      | some meant => ⟨.text (content.push (some meant)), l.found⟩
      | none => l.halt (content.stop .invalidEscape)
  | .unit content left value =>
    match Text.hexValue? c with
    | some digit =>
      if left ≤ 1 then ⟨.text (content.pushUnit (value * 16 + digit)), l.found⟩
      else ⟨.unit content (left - 1) (value * 16 + digit), l.found⟩
    | none => l.breakUnit content left c
  | .brokenUnit content bytes => l.breakUnit content bytes c
  | .numeral n =>
    match n.next c with
    | .more n => ⟨.numeral n, l.found⟩
    -- the character is none of the literal, so it is read once more
    | .over => (l.emit n.token).begin c
    | .broken => l.halt (.leaf (.error .invalidNumber) (some .invalidNumber))
  | .word left leaf =>
    match left with
    | [] => (l.emit (.leaf (.ok leaf) none)).begin c
    | expected :: left =>
      if c ≠ expected then l.halt (.leaf (.error .expectedWord) (some .expectedWord))
      -- a word ends with its last letter; what follows it is not looked at
      else if left.isEmpty then l.emit (.leaf (.ok leaf) none)
      else ⟨.word left leaf, l.found⟩
  | .stopped => l

/-- One byte at which no character begins. A text may hold it; everywhere else it is as wrong as any
character that means nothing. -/
def stepBroken (l : Lexer) : Lexer :=
  match l.mode with
  | .text content => ⟨.text (content.push none), l.found⟩
  | _ => l.step '\x7f'

/-- One character, or a byte of none. -/
def stepSymbol (l : Lexer) : Option Char → Lexer
  | some c => l.step c
  | none => l.stepBroken

/-- The tokens once the text is over. -/
def finish (l : Lexer) : List Token :=
  match l.mode with
  | .between | .stopped => l.found.reverse
  | .text content | .escape content | .unit content _ _ | .brokenUnit content _ =>
    (content.stop .endOfText :: l.found).reverse
  | .numeral n => (n.last :: l.found).reverse
  | .word _ _ => (.leaf (.error .endOfValue) (some .endOfValue) :: l.found).reverse

end Lexer

/-- The tokens of a text. -/
def tokens (s : String) : List Token := (s.toList.foldl Lexer.step Lexer.start).finish

/-- The tokens of the bytes of a text. -/
def tokensOfBytes (bytes : List UInt8) : List Token :=
  ((Text.symbols bytes).foldl Lexer.stepSymbol Lexer.start).finish

end FabricGauges.Json
