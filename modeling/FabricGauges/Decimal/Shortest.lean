import FabricGauges.Decimal.Double

/-!
# The fewest digits that read back

Among all decimals that round to a double, `Double.shortest` takes one with the fewest digits, and
of those the nearest. A grid of `n` significant digits has a decimal that reads back only if one of
the two grid points around the value does, so those two are tried for `n = 1, 2, …, 17`. Seventeen
digits are always enough; the exact binary expansion stands behind them, so that what is returned
reads back by construction.
-/

namespace FabricGauges

/-- The decimal `digits · 10^exponent`. -/
structure Decimal where
  digits : Nat
  exponent : Int
deriving DecidableEq, Repr, Inhabited

namespace Decimal

/-- The same decimal without trailing zeros; `fuel` bounds their number. -/
def trimmed (d : Decimal) : Nat → Decimal
  | 0 => d
  | fuel + 1 =>
    if d.digits ≠ 0 ∧ d.digits % 10 = 0 then trimmed ⟨d.digits / 10, d.exponent + 1⟩ fuel else d

/-- The decimal written with as few digits as its value allows. -/
def normal (d : Decimal) : Decimal :=
  if d.digits = 0 then ⟨0, 0⟩ else d.trimmed (Double.decimalLength d.digits)

end Decimal

namespace Double

/-- The exponent of the leading decimal digit of a positive quotient. -/
def leadingDigit (num den : Nat) : Int :=
  if den ≤ num then (decimalLength (num / den) : Int) - 1
  else
    let places := decimalLength (den / num)
    if den ≤ num * Nat.pow 10 (places - 1) then -((places : Int) - 1) else -(places : Int)

/-- The two points of the decimal grid `10^exponent` around the magnitude, the nearer first; a tie
puts the even one first. -/
def neighbours (x : Double) (exponent : Int) : List Decimal :=
  let num := x.numerator * Nat.pow 10 (-exponent).toNat
  let den := x.denominator * Nat.pow 10 exponent.toNat
  let below := num / den
  let rest := num % den
  let low : Decimal := ⟨below, exponent⟩
  let high : Decimal := ⟨below + 1, exponent⟩
  if 2 * rest < den ∨ 2 * rest = den ∧ below % 2 = 0 then [low, high] else [high, low]

/-- Whether a decimal magnitude rounds to the double's magnitude. -/
def readsBack (x : Double) (d : Decimal) : Bool :=
  ofDecimal? x.negative d.digits d.exponent == some x

/-- The exact decimal expansion of the magnitude. -/
def expansion (x : Double) : Decimal :=
  ⟨x.numerator * Nat.pow 5 (-x.exponent).toNat, -((-x.exponent).toNat : Int)⟩

/-- The decimals tried for a double, fewest digits first and the exact expansion last. -/
def candidates (x : Double) : List Decimal :=
  let lead := leadingDigit x.numerator x.denominator
  (List.range 17).flatMap (fun n : Nat => x.neighbours (lead - n)) ++ [x.expansion]

/-- The decimal of fewest digits that reads back as the magnitude of `x`. -/
def shortest (x : Double) : Decimal :=
  if x.isZero then ⟨0, 0⟩
  else ((x.candidates.find? x.readsBack).getD x.expansion).normal

end Double

end FabricGauges
