/-!
# Finite binary64 numbers

A `Double` is `±mantissa · 2^exponent` in the one canonical form binary64 has for it, so two
doubles are equal exactly when their fields are. Everything numeric is decided in `Nat` and `Int`:
a quotient is rounded once, half to even, on the grid that binary64 has at its magnitude.
-/

namespace FabricGauges

/-- The fields of a finite binary64 number: at most 53 bits, and fewer only at the least
exponent. -/
def Double.Canonical (mantissa : Nat) (exponent : Int) : Prop :=
  mantissa < Nat.pow 2 53 ∧ -1074 ≤ exponent ∧ exponent ≤ 971 ∧
    (Nat.pow 2 52 ≤ mantissa ∨ exponent = -1074)

instance (mantissa : Nat) (exponent : Int) : Decidable (Double.Canonical mantissa exponent) := by
  unfold Double.Canonical
  infer_instance

/-- A finite binary64 number. Zero has a sign, as it has in the format. -/
structure Double where
  negative : Bool
  mantissa : Nat
  exponent : Int
  canonical : Double.Canonical mantissa exponent
deriving DecidableEq

namespace Double

/-- Positive zero. -/
def zero : Double := ⟨false, 0, -1074, by decide⟩

/-- One. -/
def one : Double := ⟨false, Nat.pow 2 52, -52, by decide⟩

/-- The greatest finite magnitude, with a sign. -/
def greatest (negative : Bool) : Double := ⟨negative, Nat.pow 2 53 - 1, 971, by decide⟩

instance : Inhabited Double := ⟨zero⟩

/-- The same magnitude with the given sign. -/
def withSign (x : Double) (negative : Bool) : Double := { x with negative }

/-- Whether the number is a zero of either sign. -/
def isZero (x : Double) : Bool := x.mantissa == 0

/-- The magnitude as a quotient of natural numbers. -/
def numerator (x : Double) : Nat := x.mantissa * Nat.pow 2 x.exponent.toNat

/-- The denominator that goes with `numerator`; a power of two. -/
def denominator (x : Double) : Nat := Nat.pow 2 (-x.exponent).toNat

/-! ## Rounding -/

/-- The quotient `a / b` rounded to the nearest natural number, a half to the even neighbour. -/
def divRound (a b : Nat) : Nat :=
  let q := a / b
  let r := a % b
  if 2 * r < b then q
  else if b < 2 * r then q + 1
  else q + q % 2

/-- The exponent of the leading binary digit of `num / den`, both positive. -/
def leadingBit (num den : Nat) : Int :=
  let guess : Int := (Nat.log2 num : Int) - Nat.log2 den
  -- the lengths alone tell the exponent up to one
  if den * Nat.pow 2 guess.toNat ≤ num * Nat.pow 2 (-guess).toNat then guess else guess - 1

/-- The exponent of the binary64 grid at the magnitude `num / den`. -/
def gridExponent (num den : Nat) : Int := max (leadingBit num den - 52) (-1074)

/-- The double with these fields, if they are canonical. -/
def ofFields? (negative : Bool) (mantissa : Nat) (exponent : Int) : Option Double :=
  if h : Canonical mantissa exponent then some ⟨negative, mantissa, exponent, h⟩ else none

/-- The double nearest to `±num / den`, a tie going to the even mantissa; nothing when it is
beyond the greatest finite number. -/
def ofQuotient? (negative : Bool) (num den : Nat) : Option Double :=
  if num = 0 then some (zero.withSign negative)
  else
    let e := gridExponent num den
    let m := divRound (num * Nat.pow 2 (-e).toNat) (den * Nat.pow 2 e.toNat)
    -- rounding up may reach the next power of two
    if m = Nat.pow 2 53 then ofFields? negative (Nat.pow 2 52) (e + 1) else ofFields? negative m e

/-- The double nearest to an integer; one beyond the finite range goes to the greatest double of
its sign. -/
def ofInt (i : Int) : Double :=
  (ofQuotient? (i < 0) i.natAbs 1).getD (greatest (i < 0))

/-- The double nearest to a natural number. -/
def ofNat (n : Nat) : Double := ofInt n

/-- The number of decimal digits of `n`; zero has one. -/
def decimalLength (n : Nat) : Nat := (Nat.toDigits 10 n).length

/-- The double nearest to `±digits · 10^exponent`; nothing when it is too large to be finite.
Magnitudes far outside the range are settled by their digit count alone. -/
def ofDecimal? (negative : Bool) (digits : Nat) (exponent : Int) : Option Double :=
  if digits = 0 then some (zero.withSign negative)
  else
    let top := (decimalLength digits : Int) + exponent
    -- `top` is one more than the exponent of the leading decimal digit
    if 310 < top then none
    else if top < -330 then some (zero.withSign negative)
    else ofQuotient? negative (digits * Nat.pow 10 exponent.toNat) (Nat.pow 10 (-exponent).toNat)

/-! ## Arithmetic -/

/-- The value as a signed numerator over `denominator`. -/
def signedNumerator (x : Double) : Int :=
  if x.negative then -(x.numerator : Int) else x.numerator

/-- The sum rounded once; a sum beyond the finite range goes to the greatest double. -/
def add (x y : Double) : Double :=
  let num := x.signedNumerator * y.denominator + y.signedNumerator * x.denominator
  -- a sum of zero is negative only if both of its parts are
  let negative := if num = 0 then x.negative && y.negative else num < 0
  (ofQuotient? negative num.natAbs (x.denominator * y.denominator)).getD (greatest negative)

instance : Add Double := ⟨add⟩

/-- The quotient of two natural numbers, rounded once; a zero divisor is read as one. -/
def ofRatio (num den : Nat) : Double :=
  (ofQuotient? false num (max den 1)).getD (greatest false)

/-- The integral part, cut toward zero. -/
def truncate (x : Double) : Int :=
  let n : Int := x.numerator / x.denominator
  if x.negative then -n else n

/-- A duration in seconds: whole seconds and the billionths are rounded apart, then added. -/
def ofSeconds (seconds nanoseconds : Nat) : Double :=
  ofNat seconds + ofRatio nanoseconds 1000000000

end Double

end FabricGauges
