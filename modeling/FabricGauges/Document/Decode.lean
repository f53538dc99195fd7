import FabricGauges.Document.Draft
import FabricGauges.Document.Shape

/-!
# Reading a document of a shape

`Shape.decode` reads a draft in the order of its text and stops at the first fault. A record may be
written with named members, in any order and with members that the shape does not know, or as a
list of its members' values in the order of the shape. What a number literal means depends on the
language the draft was written in, which a `Dialect` says.
-/

namespace FabricGauges

open Draft (Items Members)

/-- The number literals of a language, and what it calls its empty value. -/
class Dialect (ν : Type) where
  /-- The empty value, as something found. -/
  null : Found
  /-- A number, as something found. -/
  found : ν → Except Fault Found
  signed64 : ν → Except Fault Int64
  double : ν → Except Fault Double
  /-- A natural number up to a bound, from any draft that can stand for one. -/
  unsigned : (greatest : Nat) → (expected : String) → Draft ν → Except Fault Nat
  /-- A number kept as it is. -/
  free : ν → Except Fault Number

variable {ν : Type} [Dialect ν]

/-- The fault of finding a draft where something else was expected. A draft that is broken itself
shows its own fault. -/
def Draft.mismatch {α : Type} (expected : String) : Draft ν → Except Fault α
  | .null => .error (.wrongType (Dialect.null ν) expected)
  | .bool b => .error (.wrongType (.bool b) expected)
  | .number n => do
    let found ← Dialect.found n
    .error (.wrongType found expected)
  | .text s => .error (.wrongType (.text s) expected)
  | .list _ => .error (.wrongType .list expected)
  | .record _ => .error (.wrongType .record expected)
  | .broken fault => .error fault

/-! ## Any value -/

mutual

/-- The value of a draft, whatever its shape. -/
def Draft.free : Draft ν → Except Fault Json
  | .null => .ok .null
  | .bool b => .ok (.bool b)
  | .number n => do return .number (← Dialect.free n)
  | .text s => .ok (.text s)
  | .list items => do return .list (← items.free)
  | .record members => do return .record (← members.free)
  | .broken fault => .error fault

/-- The values of the items. -/
def Draft.Items.free : Items ν → Except Fault (List Json)
  | .done how =>
    match how.fault? with
    | some fault => .error fault
    | none => .ok []
  | .next item rest => do
    let item ← item.free
    return item :: (← rest.free)

/-- The values of the members. -/
def Draft.Members.free : Members ν → Except Fault (List (String × Json))
  | .done (some fault) => .error fault
  | .done none => .ok []
  | .next name value _ rest => do
    let value ← value.free
    return (name, value) :: (← rest.free)

end

/-! ## Lists and records -/

/-- The items of a list, each read by `decode`. -/
def Draft.Items.decode {α : Type} (decode : Draft ν → Except Fault α) :
    Items ν → Except Fault (List α)
  | .done how =>
    match how.fault? with
    | some fault => .error fault
    | none => .ok []
  | .next item rest => do
    let item ← decode item
    return item :: (← rest.decode decode)

/-- The members of a record put into their slots by `fill`, which knows nothing of some names. -/
def Draft.Members.gather {σ : Type} (fill : String → Draft ν → σ → Option (Except Fault σ)) :
    Members ν → σ → Except Fault σ
  | .done (some fault), _ => .error fault
  | .done none, slots => .ok slots
  | .next name value blocked rest, slots =>
    match fill name value slots with
    | some filled => do rest.gather fill (← filled)
    -- an unknown member is passed over, which its text may not allow
    | none =>
      match blocked with
      | some fault => .error fault
      | none => rest.gather fill slots

/-- Nothing may follow the members of a record that is written as a list. -/
def Draft.Items.close (read : Nat) (rest : Items ν) : Except Fault Unit :=
  match rest with
  | .done how =>
    match how.closingFault? with
    | some fault => .error fault
    | none => .ok ()
  | .next _ _ =>
    match rest.how with
    | .whole => .error (.wrongLength (read + rest.length) "fewer elements in array")
    | .loose => .ok ()
    | _ => .error (.malformed .trailingCharacters)

/-- How a message names a record that is written as a list. -/
def positional (name : String) (count : Nat) : String :=
  s!"struct {name} with {count} element" ++ (if count = 1 then "" else "s")

/-- The values of all members, from those that were read. -/
def Fields.finish : (fields : Fields) → fields.Slots → Except Fault fields.Val
  | .nil, () => .ok ()
  | .cons field s rest, (slot, slots) => do
    let value ← match slot with
      | some value => .ok value
      | none =>
        match field.absentValue? s with
        | some value => .ok value
        | none => .error (.missingMember field.name)
    return (value, ← rest.finish slots)

/-- The place of a name among those to choose from. -/
def pickChoice (names : List String) (name : String) : Except Fault (Fin names.length) :=
  if h : names.idxOf name < names.length then .ok ⟨names.idxOf name, h⟩
  else .error (.unknownChoice name names)

/-- The choice of a draft: a text names it, and so does the first member of a record. -/
def Draft.choose (names : List String) : Draft ν → Except Fault (Fin names.length)
  | .text s => pickChoice names s
  | .record (.next name _ _ _) => pickChoice names name
  | .record (.done (some fault)) => .error fault
  | .record (.done none) => .error .emptyChoice
  | .broken fault => .error fault
  | _ => .error .notAChoice

mutual

/-- Reads a draft of a shape. -/
def Shape.decode : (s : Shape) → Draft ν → Except Fault s.Val
  | .text, d =>
    match d with
    | .text t => .ok t
    | d => d.mismatch "a string"
  | .bool, d =>
    match d with
    | .bool b => .ok b
    | d => d.mismatch "a boolean"
  | .signed64, d =>
    match d with
    | .number n => Dialect.signed64 n
    | d => d.mismatch "i64"
  | .double, d =>
    match d with
    | .number n => Dialect.double n
    | d => d.mismatch "f64"
  | .unsigned32, d => do return UInt32.ofNat (← Dialect.unsigned (UInt32.size - 1) "u32" d)
  | .unsigned64, d => do return UInt64.ofNat (← Dialect.unsigned (UInt64.size - 1) "u64" d)
  -- a value of any shape is kept in a map, which is in the order of its names
  | .anything, d => do return (← d.free).sorted
  | .optional s, d =>
    match d with
    | .null => .ok none
    | d => do return some (← s.decode d)
  | .list s, d =>
    match d with
    | .list items => items.decode s.decode
    | d => d.mismatch "a sequence"
  | .record name fields, d =>
    match d with
    | .record members => do fields.finish (← members.gather fields.fill fields.noSlots)
    | .list items => do
      let (value, rest) ← fields.decodeItems (positional name fields.length) 0 items
      rest.close fields.length
      return value
    | d => d.mismatch ("struct " ++ name)
  | .choice first others, d => d.choose (first :: others)

/-- Puts a member into its slot, if the shape knows its name. A slot is filled only once. -/
def Fields.fill : (fields : Fields) → String → Draft ν → fields.Slots →
    Option (Except Fault fields.Slots)
  | .nil, _, _, _ => none
  | .cons field s rest, name, d, (slot, slots) =>
    if field.answersTo name then
      some <|
        match slot with
        | some _ => .error (.duplicateMember field.name)
        | none => do return (some (← s.decode d), slots)
    else
      match rest.fill name d slots with
      | some filled => some (do return (slot, ← filled))
      | none => none

/-- Reads the members of a record that is written as a list, and leaves the items after them. -/
def Fields.decodeItems : (fields : Fields) → (expected : String) → (index : Nat) → Items ν →
    Except Fault (fields.Val × Items ν)
  | .nil, _, _, items => .ok ((), items)
  | .cons _ s rest, expected, index, .next item items => do
    let value ← s.decode item
    let (values, left) ← rest.decodeItems expected (index + 1) items
    return ((value, values), left)
  -- the items are over: what is left takes the values of absent members
  | .cons field s rest, expected, index, .done how => do
    if let some fault := how.fault? then .error fault
    let value ← match field.absentValue? s with
      | some value => .ok value
      | none => .error (.wrongLength index expected)
    let (values, left) ← rest.decodeItems expected (index + 1) (.done how)
    return ((value, values), left)

end

end FabricGauges
