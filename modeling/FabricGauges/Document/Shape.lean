import FabricGauges.Json.Sorted

/-!
# Shapes of documents

A `Shape` says what a document looks like: which scalar it is, what its items are, or which members
its record has. `Shape.Val` is the type of the values of that shape, so reading and writing can be
defined once for all documents, by recursion on the shape.
-/

namespace FabricGauges

/-- What a member is when a document leaves it out. -/
inductive Absent where
  /-- The member has to be there. -/
  | refused
  /-- The blank value of the member's shape. -/
  | blank
  | text (value : String)
  | count (value : Nat)
deriving DecidableEq, Repr

/-- The name of a member and the rules for it. -/
structure Field where
  name : String
  /-- Other names under which the member is accepted. -/
  aliases : List String
  absent : Absent
  /-- Whether a member without a value is left out when the record is written. -/
  omitted : Bool
deriving DecidableEq, Repr

namespace Field

/-- A member that may be left out and is blank then. -/
def optional (name : String) : Field := ⟨name, [], .blank, false⟩

/-- A member that has to be there. -/
def required (name : String) : Field := ⟨name, [], .refused, false⟩

/-- Whether a name in a document means this member. -/
def answersTo (f : Field) (name : String) : Bool := f.name == name || f.aliases.contains name

end Field

mutual

/-- What a document looks like. -/
inductive Shape where
  | text
  | bool
  | signed64
  | unsigned32
  | unsigned64
  | double
  /-- Any value, kept with its members sorted. -/
  | anything
  | optional (shape : Shape)
  | list (shape : Shape)
  | record (name : String) (fields : Fields)
  /-- One of several names; the first is the blank one. -/
  | choice (first : String) (others : List String)

/-- The members of a record, in order. -/
inductive Fields where
  | nil
  | cons (field : Field) (shape : Shape) (rest : Fields)

end

mutual

/-- The values of a shape. -/
def Shape.Val : Shape → Type
  | .text => String
  | .bool => Bool
  | .signed64 => Int64
  | .unsigned32 => UInt32
  | .unsigned64 => UInt64
  | .double => Double
  | .anything => Json.Sorted
  | .optional s => Option s.Val
  | .list s => List s.Val
  | .record _ fields => fields.Val
  | .choice first others => Fin (first :: others).length

/-- A value for each member. -/
def Fields.Val : Fields → Type
  | .nil => Unit
  | .cons _ s rest => s.Val × rest.Val

end

/-- The members read so far: a value for some of them. -/
def Fields.Slots : Fields → Type
  | .nil => Unit
  | .cons _ s rest => Option s.Val × rest.Slots

namespace Fields

/-- The number of members. -/
def length : Fields → Nat
  | .nil => 0
  | .cons _ _ rest => rest.length + 1

/-- No member has been read. -/
def noSlots : (fields : Fields) → fields.Slots
  | .nil => ()
  | .cons _ _ rest => (none, rest.noSlots)

end Fields

mutual

/-- The blank value of a shape. -/
def Shape.blank : (s : Shape) → s.Val
  | .text => ""
  | .bool => false
  | .signed64 => (0 : Int64)
  | .unsigned32 => (0 : UInt32)
  | .unsigned64 => (0 : UInt64)
  | .double => Double.zero
  | .anything => ⟨Json.null, trivial⟩
  | .optional s => (none : Option s.Val)
  | .list s => ([] : List s.Val)
  | .record _ fields => fields.blank
  | .choice _ others => (0 : Fin (others.length + 1))

/-- The value of a record none of whose members is given. -/
def Fields.blank : (fields : Fields) → fields.Val
  | .nil => ()
  | .cons field s rest =>
    (match field.absent, s with
      | .text t, .text => t
      | .count n, .unsigned32 => UInt32.ofNat n
      | .count n, .unsigned64 => UInt64.ofNat n
      | _, s => s.blank, rest.blank)

end

/-- The value of a member that a document leaves out, unless it has to be there. -/
def Field.absentValue? (field : Field) (s : Shape) : Option s.Val :=
  match field.absent, s with
  | .refused, _ => none
  | .text t, .text => some t
  | .count n, .unsigned32 => some (UInt32.ofNat n)
  | .count n, .unsigned64 => some (UInt64.ofNat n)
  | _, s => some s.blank

/-- How a message names what a shape expects. -/
def Shape.expected : Shape → String
  | .text => "a string"
  | .bool => "a boolean"
  | .signed64 => "i64"
  | .unsigned32 => "u32"
  | .unsigned64 => "u64"
  | .double => "f64"
  | .anything => "any value"
  | .optional s => s.expected
  | .list _ => "a sequence"
  | .record name _ => "struct " ++ name
  | .choice _ _ => "a string or an object"

end FabricGauges
