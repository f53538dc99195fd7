import FabricGauges.Document.Shape

/-!
# Writing a document of a shape

A record is written with its members in the order of the shape. A member that is marked as omitted
is left out when it has no value; every other member is written, as null if it has none.
-/

namespace FabricGauges

mutual

/-- The JSON value of a value of a shape. -/
def Shape.encode : (s : Shape) → s.Val → Json
  | .text, t => .text t
  | .bool, b => .bool b
  | .signed64, i => Json.ofInt (Int64.toInt i)
  | .unsigned32, n => Json.ofNat (UInt32.toNat n)
  | .unsigned64, n => Json.ofNat (UInt64.toNat n)
  | .double, d => Json.ofDouble d
  | .anything, v => v.json
  | .optional s, v =>
    match (v : Option s.Val) with
    | some v => s.encode v
    | none => .null
  | .list s, vs => .list ((vs : List s.Val).map s.encode)
  | .record _ fields, v => .record (fields.encode v)
  | .choice first others, i => .text (List.get (first :: others) i)

/-- The members of a record. -/
def Fields.encode : (fields : Fields) → fields.Val → List (String × Json)
  | .nil, () => []
  | .cons field s rest, (v, vs) =>
    match field.omitted, s.encode v with
    | true, .null => rest.encode vs
    | _, json => (field.name, json) :: rest.encode vs

end

end FabricGauges
