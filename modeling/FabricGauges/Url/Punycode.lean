/-!
# Punycode

How a host name of ASCII characters writes a label with other characters: the ASCII characters of
the label come first, and then, after a hyphen, the distances from one further character to the
next, as numbers in base 36 whose digits have thresholds that adapt.
-/

namespace FabricGauges.Punycode

/-- The value of a digit in base 36. -/
def digit? (c : Char) : Option Nat :=
  if 'a' ≤ c ∧ c ≤ 'z' then some (c.toNat - 'a'.toNat)
  else if 'A' ≤ c ∧ c ≤ 'Z' then some (c.toNat - 'A'.toNat)
  else if '0' ≤ c ∧ c ≤ '9' then some (c.toNat - '0'.toNat + 26)
  else none

/-- The threshold of the digit at a place that is a multiple of 36. -/
def threshold (place bias : Nat) : Nat :=
  if place ≤ bias then 1 else if bias + 26 ≤ place then 26 else place - bias

/-- A delta scaled down to at most 455, and 36 for each time it was divided. -/
def scale (delta passed : Nat) : Nat × Nat :=
  if 455 < delta then scale (delta / 35) (passed + 36) else (delta, passed)
termination_by delta
decreasing_by exact Nat.div_lt_self (by omega) (by omega)

/-- The bias after a delta, when the label has reached some length. -/
def adapt (delta length : Nat) (isFirst : Bool) : Nat :=
  let delta := if isFirst then delta / 700 else delta / 2
  let (delta, passed) := scale (delta + delta / length) 0
  passed + 36 * delta / (delta + 38)

/-- A label that has been read in part. -/
structure State where
  label : List Char
  /-- The code point that comes next. -/
  next : Nat := 128
  /-- Where the code point goes, as far as the open number says. -/
  position : Nat := 0
  bias : Nat := 72
  /-- The position before the open number. -/
  before : Nat := 0
  weight : Nat := 1
  place : Nat := 36

/-- The label after one more digit; a complete number puts one character into it. -/
def State.step (s : State) (c : Char) : Option State := do
  let d ← digit? c
  let position := s.position + d * s.weight
  let t := threshold s.place s.bias
  if t ≤ d then
    some { s with position, weight := s.weight * (36 - t), place := s.place + 36 }
  else
    let length := s.label.length + 1
    let code := s.next + position / length
    if h : code.isValidChar then
      let place := position % length
      some {
        label := s.label.take place ++ Char.ofNatAux code h :: s.label.drop place
        next := code
        position := place + 1
        bias := adapt (position - s.before) length (s.before = 0)
        before := place + 1 }
    else none

/-- The characters before the last hyphen and those after it. -/
def split (s : List Char) : List Char × List Char :=
  let after := (s.reverse.takeWhile (· ≠ '-')).reverse
  (s.take (s.length - after.length - 1), after)

/-- The label that a text writes. -/
def decode? (s : List Char) : Option (List Char) := do
  let (basic, extended) := split s
  let state ← extended.foldlM State.step { label := basic }
  if state.place = 36 then some state.label else none

end FabricGauges.Punycode
