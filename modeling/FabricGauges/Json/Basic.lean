import FabricGauges.Decimal.Double

/-!
# JSON values

A number is an integer when it was written as one that a 64-bit word holds, signed or not, and a
double otherwise; the two stay apart. The members of a record keep their order and may repeat a
name, as they may in a text. `Json.canonical` is the value with every record's members sorted by
name and each name once, its last value standing.
-/

namespace FabricGauges

/-- A number of a JSON document. -/
inductive Number where
  | integer (value : Int)
  | double (value : Double)
deriving DecidableEq

/-- A JSON value. -/
inductive Json where
  | null
  | bool (value : Bool)
  | number (value : Number)
  | text (value : String)
  | list (items : List Json)
  | record (members : List (String × Json))

namespace Json

instance : Inhabited Json := ⟨.null⟩

/-- An integer as a JSON value. -/
def ofInt (i : Int) : Json := .number (.integer i)

/-- A natural number as a JSON value. -/
def ofNat (n : Nat) : Json := ofInt n

/-- A double as a JSON value. -/
def ofDouble (d : Double) : Json := .number (.double d)

/-- A text or nothing. -/
def ofText? : Option String → Json
  | some s => .text s
  | none => .null

/-- The last value that a list of members gives a name. -/
def lookup (name : String) : List (String × Json) → Option Json
  | [] => none
  | (key, value) :: rest =>
    match lookup name rest with
    | some found => some found
    | none => if key = name then some value else none

/-- The member of a record by its name; nothing when there is none or the value is no record. -/
def member? (json : Json) (name : String) : Option Json :=
  match json with
  | .record members => lookup name members
  | _ => none

/-- Insertion into members sorted by name; a member of the same name is replaced. -/
def insertMember (name : String) (value : Json) : List (String × Json) → List (String × Json)
  | [] => [(name, value)]
  | (key, old) :: rest =>
    if name < key then (name, value) :: (key, old) :: rest
    else if name = key then (name, value) :: rest
    else (key, old) :: insertMember name value rest

mutual

/-- The value with every record's members sorted by name, the last of each name standing. -/
def canonical : Json → Json
  | .list items => .list (canonicalItems items)
  | .record members => .record (canonicalMembers members [])
  | .null => .null
  | .bool b => .bool b
  | .number n => .number n
  | .text s => .text s

/-- `canonical` on every item. -/
def canonicalItems : List Json → List Json
  | [] => []
  | item :: rest => item.canonical :: canonicalItems rest

/-- The members inserted one after the other into those already sorted. -/
def canonicalMembers : List (String × Json) → List (String × Json) → List (String × Json)
  | [], sorted => sorted
  | (name, value) :: rest, sorted => canonicalMembers rest (insertMember name value.canonical sorted)

end

mutual

/-- The value without the members whose value is null, at every depth. -/
def compact : Json → Json
  | .list items => .list (compactItems items)
  | .record members => .record (compactMembers members)
  | .null => .null
  | .bool b => .bool b
  | .number n => .number n
  | .text s => .text s

/-- `compact` on every item. -/
def compactItems : List Json → List Json
  | [] => []
  | item :: rest => item.compact :: compactItems rest

/-- The members that are not null, each compact. -/
def compactMembers : List (String × Json) → List (String × Json)
  | [] => []
  | (_, .null) :: rest => compactMembers rest
  | (name, value) :: rest => (name, value.compact) :: compactMembers rest

end

end Json

end FabricGauges
