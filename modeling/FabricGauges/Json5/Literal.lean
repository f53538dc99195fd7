import FabricGauges.Decimal.Layout
import FabricGauges.Document.Decode

/-!
# Literals of the configuration language

A number may have a sign, be hexadecimal, infinite or no number at all. Read as a natural number it
is cut toward zero and kept within its bounds. Read as anything else it is an integer if it is
written as one, and an integer has to fit a signed word.

A text is made of components, and an escaped UTF-16 unit is one. The first half of a surrogate pair
takes the component after it for the second half, whatever that is.
-/

namespace FabricGauges.Json5

/-! ## Numbers -/

/-- The sign of a literal. -/
inductive Sign where
  | none
  | plus
  | minus
deriving DecidableEq, Repr

/-- A number literal without its sign. -/
inductive Magnitude where
  /-- `marked` says whether one of the digits is an `e`. -/
  | hexadecimal (value : Nat) (marked : Bool)
  /-- `digits · 10^exponent`, and whether it is written without a point and an exponent. -/
  | decimal (digits : Nat) (exponent : Int) (isInteger : Bool)
  | infinity
  | nan
deriving DecidableEq, Repr

/-- A number literal. -/
structure Literal where
  sign : Sign
  magnitude : Magnitude
deriving DecidableEq, Repr

/-- What a literal is worth as a binary64 number. -/
inductive Worth where
  | finite (value : Double)
  | infinite (negative : Bool)
  | nan

namespace Literal

/-- A hexadecimal number has to fit 32 bits. -/
def hexadecimal? (value : Nat) : Except BadLiteral Nat :=
  if value < UInt32.size then .ok value else .error .hexadecimal

/-- The literal as a binary64 number. A sign before a hexadecimal number, and a plus sign before a
name, are not understood. -/
def worth (l : Literal) : Except BadLiteral Worth :=
  match l.magnitude, l.sign with
  | .hexadecimal value _, .none => do return .finite (.ofNat (← hexadecimal? value))
  | .hexadecimal _ _, _ => .error .number
  | .decimal digits exponent _, sign =>
    match Double.ofDecimal? (sign = .minus) digits exponent with
    | some value => .ok (.finite value)
    | none => .error .numberTooLarge
  | .infinity, .plus | .nan, .plus => .error .numberTooLarge
  | .infinity, sign => .ok (.infinite (sign = .minus))
  | .nan, _ => .ok .nan

/-- Whether the literal is taken for an integer. -/
def isInteger (l : Literal) : Bool :=
  match l.magnitude, l.sign with
  | .hexadecimal _ _, .none => true
  | .hexadecimal _ marked, _ => !marked
  | .decimal _ _ isInteger, _ => isInteger
  | .infinity, sign | .nan, sign => sign = .plus

/-- The literal as a signed word. -/
def integer (l : Literal) : Except BadLiteral Int :=
  match l.magnitude, l.sign with
  | .hexadecimal value _, .none => do return (← hexadecimal? value : Nat)
  | .decimal digits _ true, sign =>
    let value : Int := if sign = .minus then -(digits : Int) else digits
    if Int64.minValue.toInt ≤ value ∧ value ≤ Int64.maxValue.toInt then .ok value
    else .error .integer
  | _, _ => .error .integer

end Literal

namespace Worth

/-- How a message shows a number that is no integer. -/
def shown : Worth → String
  | finite value => Layout.plain.render value
  | infinite negative => if negative then "-inf" else "inf"
  | nan => "NaN"

/-- The number cut toward zero and kept within bounds; no number at all counts as zero. -/
def clamped (least greatest : Int) : Worth → Int
  | finite value => max least (min greatest value.truncate)
  | infinite negative => if negative then least else greatest
  | nan => max least (min greatest 0)

end Worth

namespace Literal

/-- A literal as something found. -/
def found (l : Literal) : Except Fault Found :=
  if l.isInteger then (l.integer.map Found.integer).mapError .literal
  else (l.worth.map fun w => Found.float w.shown).mapError .literal

end Literal

instance : Dialect Literal where
  null := .null "unit value"
  found := Literal.found
  signed64 l := do
    let worth ← l.worth.mapError .literal
    return Int64.ofInt (worth.clamped Int64.minValue.toInt Int64.maxValue.toInt)
  double l := do
    match ← l.worth.mapError .literal with
    | .finite value => .ok value
    | worth => .error (.outOfRange (.float worth.shown) "f64")
  unsigned greatest _ d :=
    match d with
    | .number l => do
      let worth ← l.worth.mapError .literal
      return (worth.clamped 0 greatest).toNat
    | _ => .error (.literal .number)
  free l :=
    if l.isInteger then (l.integer.map Number.integer).mapError .literal
    else do
      match ← l.worth.mapError .literal with
      | .finite value => .ok (.double value)
      | worth => .error (.outOfRange (.float worth.shown) "any value")

/-! ## Texts -/

/-- A part of a text or of a name. -/
inductive Component where
  /-- A character. `digits` is what its written form is worth as a hexadecimal number. -/
  | char (meant : Char) (digits : Option Nat)
  /-- An escaped UTF-16 unit. -/
  | unit (value : Nat)
deriving DecidableEq, Repr

namespace Component

/-- What the written form of a component is worth as a hexadecimal number. -/
def digits? : Component → Option Nat
  | char _ digits => digits
  | unit value => some value

end Component

/-- The text of some components. -/
def text : List Component → Except BadLiteral (List Char)
  | [] => .ok []
  | .char c _ :: rest => do return c :: (← text rest)
  | .unit value :: rest =>
    if 0xdc00 ≤ value ∧ value ≤ 0xdfff then .error .loneTrailSurrogate
    else if 0xd800 ≤ value ∧ value ≤ 0xdbff then
      match rest with
      | [] => .error .missingTrailSurrogate
      | second :: rest =>
        match second.digits? with
        | none => .error .hexadecimal
        | some trail =>
          if 0xdc00 ≤ trail ∧ trail ≤ 0xdfff then do
            let c := Char.ofNat (0x10000 + (value - 0xd800) * 0x400 + (trail - 0xdc00))
            return c :: (← text rest)
          else .error .otherThanTrailSurrogate
    else do return Char.ofNat value :: (← text rest)

end FabricGauges.Json5
