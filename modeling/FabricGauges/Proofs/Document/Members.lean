import FabricGauges.Proofs.Checks
import FabricGauges.Proofs.Document.Regular
import Mathlib.Data.List.Perm.Basic

/-!
# Members in any order

A record is read member by member, but what it comes to is said without an order: `Fields.assemble?`
gives each member the value that stands once under one of its names, or what the member is when no
value does. That reading and assembling agree is shown once. Then members may be moved, renamed,
left out or added as far as they mean the same to each field by itself.
-/

namespace FabricGauges

open Draft (Members)

variable {ν : Type} [Dialect ν]

/-! ## Reading and assembling -/

/-- Members of a record that was read without a fault. -/
def Draft.Members.ofList : List (String × Draft ν) → Members ν
  | [] => .done none
  | (name, value) :: rest => .next name value none (ofList rest)

namespace Draft.Members

omit [Dialect ν]

variable {σ : Type} (fill : String → Draft ν → σ → Option (Except Fault σ)) (name : String)
  (value : Draft ν) (slots : σ)

/-- A member is put into its slot, or passed over if that can be done. -/
theorem gather_next (blocked : Option Fault) (rest : Members ν) :
    (Members.next name value blocked rest).gather fill slots =
      match fill name value slots with
      | some filled => filled >>= rest.gather fill
      | none =>
        match blocked with
        | some fault => .error fault
        | none => rest.gather fill slots :=
  rfl

/-- Members are gathered one by one. -/
theorem gather_ofList_cons (ms : List (String × Draft ν)) :
    (ofList ((name, value) :: ms)).gather fill slots =
      match fill name value slots with
      | some filled => filled >>= (ofList ms).gather fill
      | none => (ofList ms).gather fill slots :=
  gather_next fill name value slots none (ofList ms)

end Draft.Members

namespace Field

variable {α : Type} {field : Field} {name : String}

/-- What is given for a member. -/
def own (field : Field) (ms : List (String × α)) : List (String × α) :=
  ms.filter fun m => field.answersTo m.1

/-- What is not given for a member. -/
def others (field : Field) (ms : List (String × α)) : List (String × α) :=
  ms.filter fun m => !field.answersTo m.1

theorem own_cons_of_answersTo (h : field.answersTo name = true) (value : α)
    (ms : List (String × α)) : field.own ((name, value) :: ms) = (name, value) :: field.own ms :=
  List.filter_cons_of_pos h

theorem own_cons_of_not_answersTo (h : field.answersTo name = false) (value : α)
    (ms : List (String × α)) : field.own ((name, value) :: ms) = field.own ms :=
  List.filter_cons_of_neg (by simp [h])

theorem others_cons_of_answersTo (h : field.answersTo name = true) (value : α)
    (ms : List (String × α)) : field.others ((name, value) :: ms) = field.others ms :=
  List.filter_cons_of_neg (by simp [h])

theorem others_cons_of_not_answersTo (h : field.answersTo name = false) (value : α)
    (ms : List (String × α)) :
    field.others ((name, value) :: ms) = (name, value) :: field.others ms :=
  List.filter_cons_of_pos (by simp [h])

end Field

/-- What a member is, given the values under its names. -/
def Field.given (field : Field) (s : Shape) : List (String × Draft ν) → Option s.Val
  | [] => field.absentValue? s
  | [(_, value)] => (s.decode value).toOption
  | _ => none

namespace Fields

variable {field : Field} {s : Shape} {rest fields : Fields} {ms ms' : List (String × Draft ν)}

/-- What the members of a record are, given all values and their names. -/
def assemble? : (fields : Fields) → List (String × Draft ν) → Option fields.Val
  | .nil, _ => some ()
  | .cons field s rest, ms => do
    let value ← field.given s (field.own ms)
    let values ← rest.assemble? (field.others ms)
    return (value, values)

/-- A slot after some values have been put into it. -/
def fillSlot (s : Shape) : Option s.Val → List (String × Draft ν) → Option (Option s.Val)
  | slot, [] => some slot
  | none, (_, value) :: later => do fillSlot s (some (← (s.decode value).toOption)) later
  | some _, _ :: _ => none

/-- The value of a slot. -/
def slotValue? (field : Field) (s : Shape) (slot : Option s.Val) : Option s.Val :=
  slot.or (field.absentValue? s)

/-- A slot that has been filled takes nothing more, so it holds what was given for the member. -/
theorem given_eq_some_iff {value : s.Val} :
    field.given s ms = some value ↔
      ∃ slot, fillSlot s none ms = some slot ∧ slotValue? field s slot = some value := by
  match ms with
  | [] => simp [Field.given, fillSlot, slotValue?]
  | [(_, d)] =>
    cases hd : s.decode d with
    | error fault => simp [Field.given, fillSlot, hd, Except.toOption]
    | ok v => simp [Field.given, fillSlot, hd, Except.toOption, slotValue?]
  | (_, d) :: _ :: _ =>
    cases hd : s.decode d with
    | error fault => simp [Field.given, fillSlot, hd, Except.toOption]
    | ok v => simp [Field.given, fillSlot, hd, Except.toOption]

/-- The slots of members of which the first one is known. -/
def joinSlots (field : Field) (slot : Option s.Val) (slots : rest.Slots) :
    (cons field s rest).Slots := (slot, slots)

/-- The values of members of which the first one is known. -/
def joinValues (field : Field) (value : s.Val) (values : rest.Val) : (cons field s rest).Val :=
  (value, values)

theorem joinSlots_inj {slot slot' : Option s.Val} {slots slots' : rest.Slots} :
    joinSlots field slot slots = joinSlots field slot' slots' ↔ slot = slot' ∧ slots = slots' :=
  Prod.mk.injEq .. ▸ Iff.rfl

theorem joinValues_inj {value value' : s.Val} {values values' : rest.Val} :
    joinValues field value values = joinValues field value' values' ↔
      value = value' ∧ values = values' :=
  Prod.mk.injEq .. ▸ Iff.rfl

/-- A member fills the first field that answers to its name, unless that one is filled. -/
theorem fill_cons_of_answersTo {name : String} (h : field.answersTo name = true) (value : Draft ν)
    (slot : Option s.Val) (slots : rest.Slots) :
    (cons field s rest).fill name value (joinSlots field slot slots) = some (match slot with
      | some _ => .error (.duplicateMember field.name)
      | none => do return joinSlots field (some (← s.decode value)) slots) := by
  show (if field.answersTo name then _ else _) = _
  rw [if_pos h]
  rfl

/-- A member that the first field does not answer to is left to the others. -/
theorem fill_cons_of_not_answersTo {name : String} (h : field.answersTo name = false)
    (value : Draft ν) (slot : Option s.Val) (slots : rest.Slots) :
    (cons field s rest).fill name value (joinSlots field slot slots) =
      match rest.fill name value slots with
      | some filled => some (do return joinSlots field slot (← filled))
      | none => none := by
  show (if field.answersTo name then _ else _) = _
  rw [if_neg (Bool.eq_false_iff.1 h)]
  rfl

/-- Members that have been read are in the slot of the first field or in the slots of the others. -/
theorem gather_cons_eq_ok {slot slot' : Option s.Val} {slots slots' : rest.Slots} :
    (Members.ofList ms).gather (cons field s rest).fill (joinSlots field slot slots) =
        .ok (joinSlots field slot' slots') ↔
      fillSlot s slot (field.own ms) = some slot' ∧
        (Members.ofList (field.others ms)).gather rest.fill slots = .ok slots' := by
  -- one member after the other, each of which goes into the first slot or into one of the others
  induction ms generalizing slot slots with
  | nil => simp [Members.ofList, Members.gather, fillSlot, joinSlots_inj, Field.own, Field.others]
  | cons m ms ih =>
    obtain ⟨name, value⟩ := m
    rw [Members.gather_ofList_cons]
    cases hname : field.answersTo name with
    | true =>
      rw [fill_cons_of_answersTo hname, Field.own_cons_of_answersTo hname,
        Field.others_cons_of_answersTo hname]
      cases slot with
      | some old => simp [fillSlot, bind, Except.bind]
      | none =>
        cases hvalue : s.decode value with
        | error fault => simp [fillSlot, hvalue, bind, Except.bind, Except.toOption]
        | ok new =>
          simp only [fillSlot, hvalue, Except.toOption, bind, Except.bind, Option.bind, pure,
            Except.pure]
          exact ih
    | false =>
      rw [fill_cons_of_not_answersTo hname, Field.own_cons_of_not_answersTo hname,
        Field.others_cons_of_not_answersTo hname, Members.gather_ofList_cons]
      cases rest.fill name value slots with
      | none => exact ih
      | some filled =>
        cases filled with
        | error fault => simp [bind, Except.bind]
        | ok slots₁ => exact ih

/-- What the slots of a record come to. -/
theorem finish_cons_eq_ok {slot : Option s.Val} {slots : rest.Slots} {value : s.Val}
    {values : rest.Val} :
    (cons field s rest).finish (joinSlots field slot slots) = .ok (joinValues field value values) ↔
      slotValue? field s slot = some value ∧ rest.finish slots = .ok values := by
  have hfinish : (cons field s rest).finish (joinSlots field slot slots) = (do
      let value ← match slotValue? field s slot with
        | some value => .ok value
        | none => .error (.missingMember field.name)
      return joinValues field value (← rest.finish slots)) := by
    unfold slotValue?
    cases slot with
    | some found => rfl
    | none => rfl
  rw [hfinish]
  cases slotValue? field s slot with
  | none => simp [bind, Except.bind]
  | some found =>
    cases rest.finish slots with
    | error fault => simp [bind, Except.bind]
    | ok others => simp [bind, Except.bind, pure, Except.pure, joinValues_inj]

/-- Fields are assembled if the first one is given a value and the others are, from the rest. -/
theorem assemble?_cons_eq_some {value : s.Val} {values : rest.Val} :
    (cons field s rest).assemble? ms = some (joinValues field value values) ↔
      field.given s (field.own ms) = some value ∧
        rest.assemble? (field.others ms) = some values := by
  show (do
    let value ← field.given s _
    let values ← rest.assemble? _
    return joinValues field value values) = _ ↔ _
  simp [Option.bind_eq_some_iff, joinValues_inj]

/-- Members without names come to what they are assembled to. -/
theorem gather_nil (ms : List (String × Draft ν)) :
    (Members.ofList ms).gather Fields.nil.fill Fields.nil.noSlots = .ok () := by
  induction ms with
  | nil => rfl
  | cons m ms ih => exact ih

/-- Reading the members of a record comes to what they are assembled to. -/
theorem exists_gather_iff : {fields : Fields} → {ms : List (String × Draft ν)} →
    {values : fields.Val} →
    ((∃ slots, (Members.ofList ms).gather fields.fill fields.noSlots = .ok slots ∧
      fields.finish slots = .ok values) ↔ fields.assemble? ms = some values)
  | .nil, ms, () => ⟨fun _ => rfl, fun _ => ⟨(), gather_nil ms, rfl⟩⟩
  | .cons field s rest, ms, (value, values) => by
    show (∃ slots : Option s.Val × rest.Slots, (Members.ofList ms).gather (cons field s rest).fill
        (joinSlots field none rest.noSlots) = .ok (joinSlots field slots.1 slots.2) ∧
      (cons field s rest).finish (joinSlots field slots.1 slots.2) =
        .ok (joinValues field value values)) ↔
      (cons field s rest).assemble? ms = some (joinValues field value values)
    rw [assemble?_cons_eq_some, given_eq_some_iff, ← exists_gather_iff]
    simp only [gather_cons_eq_ok, finish_cons_eq_ok, Prod.exists]
    constructor
    · rintro ⟨slot, slots, ⟨hslot, hslots⟩, hvalue, hvalues⟩
      exact ⟨⟨slot, hslot, hvalue⟩, slots, hslots, hvalues⟩
    · rintro ⟨⟨slot, hslot, hvalue⟩, slots, hslots, hvalues⟩
      exact ⟨slot, slots, ⟨hslot, hslots⟩, hvalue, hvalues⟩

end Fields

/-- A record with named members is read as what the members are assembled to. -/
theorem Shape.decode_record_eq_ok_iff {name : String} {fields : Fields}
    {ms : List (String × Draft ν)} {values : fields.Val} :
    (record name fields).decode (.record (.ofList ms)) = .ok values ↔
      fields.assemble? ms = some values := by
  rw [← Fields.exists_gather_iff]
  exact bind_eq_ok

/-! ## Changes that make no difference -/

namespace Fields

/-- The place of the member that a name means. -/
def place? : Fields → String → Option Nat
  | .nil, _ => none
  | .cons field _ rest, name =>
    if field.answersTo name then some 0 else (rest.place? name).map (· + 1)

/-- The shape of the member that a name means. -/
def shapeOf? : Fields → String → Option Shape
  | .nil, _ => none
  | .cons field s rest, name => if field.answersTo name then some s else rest.shapeOf? name

theorem place?_cons_of_answersTo {field : Field} {name : String} (h : field.answersTo name = true)
    (s : Shape) (rest : Fields) : (cons field s rest).place? name = some 0 := by
  rw [place?, if_pos h]

theorem place?_cons_of_not_answersTo {field : Field} {name : String}
    (h : field.answersTo name = false) (s : Shape) (rest : Fields) :
    (cons field s rest).place? name = (rest.place? name).map (· + 1) := by
  rw [place?, if_neg (Bool.eq_false_iff.1 h)]

/-- Names of one place mean the first member, or they mean one of the others. -/
theorem place?_cons_eq {field : Field} {s : Shape} {rest : Fields} {name name' : String}
    (h : (cons field s rest).place? name = (cons field s rest).place? name') :
    field.answersTo name = field.answersTo name' ∧
      (field.answersTo name = false → rest.place? name = rest.place? name') := by
  -- the place of the first field is zero, and the others come behind it
  have hsucc : Function.Injective fun i : Nat => i + 1 := fun i j hij => Nat.succ.inj hij
  cases hname : field.answersTo name with
  | true =>
    cases hname' : field.answersTo name' with
    | true => exact ⟨rfl, nofun⟩
    | false =>
      rw [place?_cons_of_answersTo hname, place?_cons_of_not_answersTo hname'] at h
      cases hplace : rest.place? name' with
      | none => simp [hplace] at h
      | some i => simp [hplace] at h
  | false =>
    cases hname' : field.answersTo name' with
    | true =>
      rw [place?_cons_of_answersTo hname', place?_cons_of_not_answersTo hname] at h
      cases hplace : rest.place? name with
      | none => simp [hplace] at h
      | some i => simp [hplace] at h
    | false =>
      rw [place?_cons_of_not_answersTo hname, place?_cons_of_not_answersTo hname'] at h
      exact ⟨rfl, fun _ => Option.map_injective hsucc h⟩

/-- The value of a field does not depend on the order of the members. -/
theorem given_perm {field : Field} {s : Shape} {ms ms' : List (String × Draft ν)}
    (h : ms.Perm ms') : field.given s ms = field.given s ms' := by
  match ms, ms' with
  | [], ms' => rw [h.nil_eq]
  | [m], ms' => rw [List.singleton_perm.1 h]
  | _ :: _ :: _, [] => exact absurd h.length_eq (by simp)
  | _ :: _ :: _, [_] => exact absurd h.length_eq (by simp)
  | _ :: _ :: _, _ :: _ :: _ => rfl

theorem given_cons_eq_some {field : Field} {s : Shape} {name : String} {value : Draft ν}
    {ms : List (String × Draft ν)} {read : s.Val} :
    field.given s ((name, value) :: ms) = some read ↔ ms = [] ∧ s.decode value = .ok read := by
  cases ms with
  | nil => cases hvalue : s.decode value <;> simp [Field.given, hvalue, Except.toOption]
  | cons m ms => simp [Field.given]

/-- The order of members makes no difference. -/
theorem assemble?_perm : {fields : Fields} → {ms ms' : List (String × Draft ν)} → ms.Perm ms' →
    fields.assemble? ms = fields.assemble? ms'
  | .nil, _, _, _ => rfl
  | .cons field s rest, ms, ms', h => by
    have hown : field.given s (field.own ms) = field.given s (field.own ms') :=
      given_perm (h.filter _)
    have hothers : rest.assemble? (field.others ms) = rest.assemble? (field.others ms') :=
      assemble?_perm (h.filter _)
    rw [assemble?, assemble?, hown, hothers]

/-- A member that no name means makes no difference. -/
theorem assemble?_cons_of_unknown : {fields : Fields} → {name : String} →
    fields.place? name = none → (value : Draft ν) → (ms : List (String × Draft ν)) →
    fields.assemble? ((name, value) :: ms) = fields.assemble? ms
  | .nil, _, _, _, _ => rfl
  | .cons field s rest, name, h, value, ms => by
    cases hname : field.answersTo name with
    | true =>
      rw [place?_cons_of_answersTo hname] at h
      cases h
    | false =>
      rw [place?_cons_of_not_answersTo hname, Option.map_eq_none_iff] at h
      rw [assemble?, assemble?, Field.own_cons_of_not_answersTo hname,
        Field.others_cons_of_not_answersTo hname, assemble?_cons_of_unknown h]

/-- Under which of its names a member is given makes no difference. -/
theorem assemble?_cons_of_place?_eq : {fields : Fields} → {name name' : String} →
    fields.place? name = fields.place? name' → (value : Draft ν) → (ms : List (String × Draft ν)) →
    fields.assemble? ((name, value) :: ms) = fields.assemble? ((name', value) :: ms)
  | .nil, _, _, _, _, _ => rfl
  | .cons field s rest, name, name', h, value, ms => by
    obtain ⟨hsame, hlater⟩ := place?_cons_eq h
    cases hname : field.answersTo name with
    | true =>
      have hname' := hsame.symm.trans hname
      have hgiven : field.given s ((name, value) :: field.own ms) =
          field.given s ((name', value) :: field.own ms) := by
        cases field.own ms <;> rfl
      rw [assemble?, assemble?, Field.own_cons_of_answersTo hname,
        Field.own_cons_of_answersTo hname', Field.others_cons_of_answersTo hname,
        Field.others_cons_of_answersTo hname', hgiven]
    | false =>
      have hname' := hsame.symm.trans hname
      rw [assemble?, assemble?, Field.own_cons_of_not_answersTo hname,
        Field.own_cons_of_not_answersTo hname', Field.others_cons_of_not_answersTo hname,
        Field.others_cons_of_not_answersTo hname', assemble?_cons_of_place?_eq (hlater hname)]

/-- A member that is given twice has no value. -/
theorem assemble?_cons_cons_eq_none : {fields : Fields} → {name name' : String} → {i : Nat} →
    fields.place? name = some i → fields.place? name' = some i → (value value' : Draft ν) →
    (ms : List (String × Draft ν)) →
    fields.assemble? ((name, value) :: (name', value') :: ms) = none
  | .nil, _, _, _, h, _, _, _, _ => by cases h
  | .cons field s rest, name, name', i, h, h', value, value', ms => by
    obtain ⟨hsame, -⟩ := place?_cons_eq (h.trans h'.symm)
    cases hname : field.answersTo name with
    | true =>
      have hname' := hsame.symm.trans hname
      rw [assemble?, Field.own_cons_of_answersTo hname, Field.own_cons_of_answersTo hname']
      rfl
    | false =>
      have hname' := hsame.symm.trans hname
      rw [place?_cons_of_not_answersTo hname] at h
      rw [place?_cons_of_not_answersTo hname'] at h'
      obtain ⟨j, hj, rfl⟩ := Option.map_eq_some_iff.1 h
      have hj' : rest.place? name' = some j := by
        obtain ⟨j', hj', hsucc⟩ := Option.map_eq_some_iff.1 h'
        rw [hj', Nat.succ.inj hsucc]
      have hlater := assemble?_cons_cons_eq_none hj hj' value value' (field.others ms)
      rw [assemble?, Field.others_cons_of_not_answersTo hname,
        Field.others_cons_of_not_answersTo hname', hlater]
      cases field.given s (field.own ((name, value) :: (name', value') :: ms)) <;> rfl

/-- What matters of the value of a member is what is read of it. -/
theorem exists_decode_of_assemble? : {fields : Fields} → {name : String} → {s : Shape} →
    fields.shapeOf? name = some s → {value : Draft ν} → {ms : List (String × Draft ν)} →
    {values : fields.Val} → fields.assemble? ((name, value) :: ms) = some values →
    ∃ read, s.decode value = .ok read ∧ ∀ value', s.decode value' = .ok read →
      fields.assemble? ((name, value') :: ms) = some values
  | .nil, _, _, h, _, _, _, _ => by cases h
  | .cons field s₀ rest, name, s, h, value, ms, (first, later), hvalues => by
    -- the member belongs to the first field or to a later one
    obtain ⟨hfirst, hlater⟩ := assemble?_cons_eq_some.1 hvalues
    rw [shapeOf?] at h
    cases hname : field.answersTo name with
    | true =>
      rw [if_pos hname, Option.some.injEq] at h
      subst h
      rw [Field.own_cons_of_answersTo hname, given_cons_eq_some] at hfirst
      rw [Field.others_cons_of_answersTo hname] at hlater
      refine ⟨first, hfirst.2, fun value' hvalue' => assemble?_cons_eq_some.2 ?_⟩
      rw [Field.own_cons_of_answersTo hname, Field.others_cons_of_answersTo hname]
      exact ⟨given_cons_eq_some.2 ⟨hfirst.1, hvalue'⟩, hlater⟩
    | false =>
      rw [if_neg (Bool.eq_false_iff.1 hname)] at h
      rw [Field.own_cons_of_not_answersTo hname] at hfirst
      rw [Field.others_cons_of_not_answersTo hname] at hlater
      obtain ⟨read, hread, hsame⟩ := exists_decode_of_assemble? h hlater
      refine ⟨read, hread, fun value' hvalue' => assemble?_cons_eq_some.2 ?_⟩
      rw [Field.own_cons_of_not_answersTo hname, Field.others_cons_of_not_answersTo hname]
      exact ⟨hfirst, hsame value' hvalue'⟩

end Fields

/-! ## Null -/

/-- A member that may be null may be left out, and is then blank. -/
theorem Field.absentValue?_of_isNullable {field : Field} {s : Shape} (hs : s.isNullable = true)
    (hfield : field.absent ≠ .refused) : field.absentValue? s = some s.blank := by
  unfold absentValue?
  cases habsent : field.absent with
  | refused => exact absurd habsent hfield
  | blank => rfl
  | text t => cases s <;> first | rfl | cases hs
  | count n => cases s <;> first | rfl | cases hs

/-- Null is read as the blank value, by a shape to whose values it belongs. -/
theorem Shape.eq_blank_of_decode_null {s : Shape} (hs : s.isRegular = true) {v : s.Val}
    (h : s.decode (.null : Draft Number) = .ok v) : s.isNullable = true ∧ v = s.blank := by
  cases s with
  | optional s => exact ⟨rfl, (Except.ok.inj h).symm⟩
  | anything => exact ⟨rfl, (Except.ok.inj h).symm⟩
  | choice first others => cases hs
  | _ => cases h

/-- A member that is null may be left out. -/
theorem Fields.assemble?_of_cons_null : {fields : Fields} → fields.isRegular = true →
    {name : String} → {ms : List (String × Draft Number)} → {values : fields.Val} →
    fields.assemble? ((name, .null) :: ms) = some values → fields.assemble? ms = some values
  | .nil, _, _, _, _, h => h
  | .cons field s rest, hregular, name, ms, (first, later), h => by
    obtain ⟨-, habsent, hs, hrest⟩ := isRegular_cons.1 hregular
    obtain ⟨hfirst, hlater⟩ := assemble?_cons_eq_some.1 h
    apply assemble?_cons_eq_some.2
    cases hname : field.answersTo name with
    | true =>
      rw [Field.own_cons_of_answersTo hname, given_cons_eq_some] at hfirst
      rw [Field.others_cons_of_answersTo hname] at hlater
      obtain ⟨hnull, rfl⟩ := Shape.eq_blank_of_decode_null hs hfirst.2
      rw [hfirst.1]
      exact ⟨Field.absentValue?_of_isNullable hnull (habsent hnull), hlater⟩
    | false =>
      rw [Field.own_cons_of_not_answersTo hname] at hfirst
      rw [Field.others_cons_of_not_answersTo hname] at hlater
      exact ⟨hfirst, Fields.assemble?_of_cons_null hrest hlater⟩

end FabricGauges
