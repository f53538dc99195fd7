import FabricGauges.Decimal.Layout
import FabricGauges.Document.Decode
import FabricGauges.Json.Draft

/-!
# Numbers of JSON documents

An integer is read as a signed or an unsigned word if it fits, and a double takes any number. A
number with a fraction is never an integer, whatever its value.
-/

namespace FabricGauges.Json

/-- A number as something found. -/
def foundNumber : Number → Found
  | .integer i => .integer i
  | .double d => .float (Layout.quoted.render d)

/-- A signed word. -/
def signed64 : Number → Except Fault Int64
  | .integer i =>
    if Int64.minValue.toInt ≤ i ∧ i ≤ Int64.maxValue.toInt then .ok (Int64.ofInt i)
    else .error (.outOfRange (.integer i) "i64")
  | .double d => .error (.wrongType (foundNumber (.double d)) "i64")

/-- A double. -/
def double : Number → Double
  | .integer i => Double.ofInt i
  | .double d => d

instance : Dialect Number where
  null := .null "null"
  found n := .ok (foundNumber n)
  signed64 := signed64
  double n := .ok (double n)
  unsigned greatest expected d :=
    match d with
    | .number (.integer i) =>
      if 0 ≤ i ∧ i ≤ greatest then .ok i.toNat else .error (.outOfRange (.integer i) expected)
    | .number (.double d) => .error (.wrongType (foundNumber (.double d)) expected)
    | .null => .error (.wrongType (.null "null") expected)
    | .bool b => .error (.wrongType (.bool b) expected)
    | .text s => .error (.wrongType (.text s) expected)
    | .list _ => .error (.wrongType .list expected)
    | .record _ => .error (.wrongType .record expected)
    | .broken fault => .error fault
  free n := .ok n

end FabricGauges.Json
