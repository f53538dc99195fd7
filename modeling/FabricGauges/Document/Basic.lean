import FabricGauges.Document.Encode
import FabricGauges.Json.Dialect

/-!
# Documents

A type is a `Document` when its values are those of a shape. Scalars, optional values and lists are
documents, and a structure is one through the product of its members. `ofText` reads a document from
a text, `ofBytes` from the bytes of a text, `ofJson` from a value, and `toJson` writes it.
-/

namespace FabricGauges

/-- A type whose values are those of a shape. -/
class Document (α : Type) where
  shape : Shape
  ofVal : shape.Val → α
  toVal : α → shape.Val
  toVal_ofVal : ∀ v, toVal (ofVal v) = v
  ofVal_toVal : ∀ a, ofVal (toVal a) = a

namespace Document

attribute [simp] toVal_ofVal ofVal_toVal

instance : Document String := ⟨.text, id, id, fun _ => rfl, fun _ => rfl⟩

instance : Document Bool := ⟨.bool, id, id, fun _ => rfl, fun _ => rfl⟩

instance : Document Int64 := ⟨.signed64, id, id, fun _ => rfl, fun _ => rfl⟩

instance : Document UInt32 := ⟨.unsigned32, id, id, fun _ => rfl, fun _ => rfl⟩

instance : Document UInt64 := ⟨.unsigned64, id, id, fun _ => rfl, fun _ => rfl⟩

instance : Document Double := ⟨.double, id, id, fun _ => rfl, fun _ => rfl⟩

instance : Document Json.Sorted := ⟨.anything, id, id, fun _ => rfl, fun _ => rfl⟩

private theorem option_map_map {α β : Type} {f : α → β} {g : β → α} (h : ∀ b, f (g b) = b)
    (v : Option β) : (v.map g).map f = v := by
  cases v <;> simp [h]

private theorem list_map_map {α β : Type} {f : α → β} {g : β → α} (h : ∀ b, f (g b) = b)
    (v : List β) : (v.map g).map f = v := by
  induction v <;> simp_all

instance {α : Type} [Document α] : Document (Option α) where
  shape := .optional (shape α)
  ofVal v := Option.map ofVal v
  toVal a := Option.map toVal a
  toVal_ofVal := option_map_map toVal_ofVal
  ofVal_toVal := option_map_map ofVal_toVal

instance {α : Type} [Document α] : Document (List α) where
  shape := .list (shape α)
  ofVal v := List.map ofVal v
  toVal a := List.map toVal a
  toVal_ofVal := list_map_map toVal_ofVal
  ofVal_toVal := list_map_map ofVal_toVal

/-- A member in front of others. -/
def member (α : Type) [Document α] (field : Field) (rest : Fields) : Fields :=
  .cons field (shape α) rest

variable {α : Type} [Document α]

/-- Reads a document from a draft. -/
def ofDraft {ν : Type} [Dialect ν] (α : Type) [Document α] (d : Draft ν) : Except Fault α :=
  return ofVal (← (shape α).decode d)

/-- Reads a document from a value. -/
def ofJson (α : Type) [Document α] (json : Json) : Except Fault α := ofDraft α json.asDraft

/-- The document of a text that was read; nothing but blanks may follow it. -/
def ofReading (α : Type) [Document α] (reading : Json.Reading) : Except Fault α := do
  let document ← ofDraft α reading.draft
  match reading.surplus with
  | some fault => .error fault
  | none => return document

/-- Reads a document from a text. -/
def ofText (α : Type) [Document α] (s : String) : Except Fault α := ofReading α (Json.read s)

/-- Reads a document from the bytes of a text. -/
def ofBytes (α : Type) [Document α] (bytes : List UInt8) : Except Fault α :=
  ofReading α (Json.readBytes bytes)

/-- The JSON value of a document. -/
def toJson (a : α) : Json := (shape α).encode (toVal a)

end Document

end FabricGauges
