import FabricGauges.Decimal.Double

/-!
# Decimals that are read in steps

A reader of documents does not round a decimal once. It rounds the significand, and then multiplies
it by a power of ten or divides it by one, which is a double itself; each result is rounded again.
The double that comes out need not be the nearest one to the decimal.
-/

namespace FabricGauges.Double

/-- The product rounded once; nothing when it is beyond the greatest finite number. -/
def mul? (x y : Double) : Option Double :=
  ofQuotient? (x.negative != y.negative) (x.numerator * y.numerator) (x.denominator * y.denominator)

/-- The quotient rounded once, for a divisor that is not zero; nothing when it is beyond the
greatest finite number. -/
def div? (x y : Double) : Option Double :=
  ofQuotient? (x.negative != y.negative) (x.numerator * y.denominator) (x.denominator * y.numerator)

/-- The greatest exponent of a power of ten that is finite. -/
def greatestPower : Nat := 308

/-- The double nearest to a power of ten. -/
def powerOfTen (n : Nat) : Double := ofNat (Nat.pow 10 n)

/-- Divided by the greatest power of ten, `times` times or until nothing is left. -/
def shrink? (x : Double) : Nat → Option Double
  | 0 => some x
  | times + 1 =>
    if x.isZero then some x
    else match x.div? (powerOfTen greatestPower) with
      | some y => y.shrink? times
      | none => none

/-- The double that `±significand · 10^scale` is read as; nothing when it is beyond the greatest
finite number. A scale below the least power of ten takes several divisions. -/
def ofScaled? (negative : Bool) (significand : Nat) (scale : Int) : Option Double := do
  let x := ofNat significand
  let magnitude ←
    if x.isZero then some x
    else if (greatestPower : Int) < scale then none
    else if 0 ≤ scale then x.mul? (powerOfTen scale.toNat)
    else
      let places := scale.natAbs
      -- the last divisor is at least ten and at most the greatest power
      let times := (places - 1) / greatestPower
      (← x.shrink? times).div? (powerOfTen (places - times * greatestPower))
  return magnitude.withSign negative

example : ofScaled? false 5 (-1) = some (ofRatio 1 2) := by decide +kernel

end FabricGauges.Double
