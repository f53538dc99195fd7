import FabricGauges.Decimal.Shortest

/-!
# Layouts of decimal text

A `Layout` says how the digits of a number become text: for which magnitudes the point stands among
the digits, and how an exponent is written otherwise. Three texts are in use: sample values of the
exposition, numbers quoted in messages about documents, and numbers quoted in messages about the
configuration file.
-/

namespace FabricGauges

/-- The decisions of a number format. -/
structure Layout where
  /-- The least exponent of a leading digit that is written positionally; absent means all. -/
  leastPositional : Option Int
  /-- The greatest exponent of a leading digit that is written positionally; absent means all. -/
  greatestPositional : Option Int
  /-- Whether an exponent that is not negative carries a plus sign. -/
  plusSign : Bool
  /-- The least number of exponent digits. -/
  exponentWidth : Nat
deriving DecidableEq, Repr

namespace Layout

/-- Sample values: positional from a millionth up to below 10^21, exponents bare. -/
def sample : Layout := ⟨some (-6), some 20, false, 1⟩

/-- Numbers quoted in messages about documents: positional from 10^-5 up to below 10^16. -/
def quoted : Layout := ⟨some (-5), some 15, true, 2⟩

/-- Numbers quoted in messages about the configuration file: never an exponent. -/
def plain : Layout := ⟨none, none, false, 1⟩

/-- Whether a number whose leading digit has this exponent is written positionally. -/
def isPositional (l : Layout) (lead : Int) : Bool :=
  l.leastPositional.all (· ≤ lead) && l.greatestPositional.all (lead ≤ ·)

/-- Digits with the point at its place; an integer keeps the fraction `.0`. -/
def positional (d : Decimal) : String :=
  let digits := Nat.toDigits 10 d.digits
  let places := (-d.exponent).toNat
  if places = 0 then
    String.ofList (digits ++ List.replicate d.exponent.toNat '0' ++ ['.', '0'])
  else if places < digits.length then
    let whole := digits.length - places
    String.ofList (digits.take whole ++ '.' :: digits.drop whole)
  else
    String.ofList ('0' :: '.' :: List.replicate (places - digits.length) '0' ++ digits)

/-- One digit, a fraction if there is one, and the exponent of the leading digit. -/
def scientific (l : Layout) (d : Decimal) (lead : Int) : String :=
  let digits := Nat.toDigits 10 d.digits
  let fraction := match digits.drop 1 with
    | [] => []
    | rest => '.' :: rest
  let sign := if lead < 0 then ['-'] else if l.plusSign then ['+'] else []
  let exponent := Nat.toDigits 10 lead.natAbs
  let padding := List.replicate (l.exponentWidth - exponent.length) '0'
  String.ofList (digits.take 1 ++ fraction ++ 'e' :: sign ++ padding ++ exponent)

/-- The text of a magnitude. -/
def magnitude (l : Layout) (d : Decimal) : String :=
  let lead := d.exponent + (Double.decimalLength d.digits : Int) - 1
  if d.digits = 0 ∨ l.isPositional lead then positional d else l.scientific d lead

/-- The text of a double: a minus sign where its sign says so, then its shortest digits. -/
def render (l : Layout) (x : Double) : String :=
  (if x.negative then "-" else "") ++ l.magnitude x.shortest

end Layout

end FabricGauges
