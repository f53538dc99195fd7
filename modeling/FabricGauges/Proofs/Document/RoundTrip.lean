import FabricGauges.Proofs.Document.Members

/-!
# Documents that are written and read again

What is written of a document is read as that document. For records this needs that each member is
found under its own name again, and that a member that was left out is what the reader takes it for.
-/

namespace FabricGauges

/-! ## Values of any shape -/

namespace Json

mutual

/-- A value that is taken as a draft is read back as it is. -/
theorem free_asDraft : (j : Json) → j.asDraft.free = .ok j
  | .null | .bool _ | .number _ | .text _ => rfl
  | .list items => by rw [asDraft, Draft.free, free_asItems items]; rfl
  | .record members => by rw [asDraft, Draft.free, free_asMembers members]; rfl

theorem free_asItems : (items : List Json) → (asItems items).free = .ok items
  | [] => rfl
  | item :: rest => by
    rw [asItems, Draft.Items.free, free_asDraft item, free_asItems rest]
    rfl

theorem free_asMembers : (members : List (String × Json)) → (asMembers members).free = .ok members
  | [] => rfl
  | (name, value) :: rest => by
    rw [asMembers, Draft.Members.free, free_asDraft value, free_asMembers rest]
    rfl

end

/-- A member behind all others is inserted at the end. -/
theorem insertMember_of_lt {name : String} (value : Json) {members : List (String × Json)}
    (h : ∀ m ∈ members, m.1 < name) :
    insertMember name value members = members ++ [(name, value)] := by
  induction members with
  | nil => rfl
  | cons first rest ih =>
    obtain ⟨key, old⟩ := first
    obtain ⟨hkey, hrest⟩ := List.forall_mem_cons.1 h
    have hne : name ≠ key := fun heq => String.lt_irrefl _ (heq ▸ hkey)
    rw [insertMember, if_neg (String.lt_asymm hkey), if_neg hne, ih hrest]
    rfl

mutual

/-- A value that is sorted is kept as it is. -/
theorem canonical_of_isSorted : {j : Json} → j.IsSorted → j.canonical = j
  | .null, _ | .bool _, _ | .number _, _ | .text _, _ => rfl
  | .list _, h => congrArg list (canonicalItems_of_areSorted h)
  | .record _, h => congrArg record (canonicalMembers_of_areSorted h nofun)

theorem canonicalItems_of_areSorted : {items : List Json} → AreSortedItems items →
    canonicalItems items = items
  | [], _ => rfl
  | item :: rest, h => by
    rw [canonicalItems, canonical_of_isSorted h.1, canonicalItems_of_areSorted h.2]

/-- Sorted members stay where they are. -/
theorem canonicalMembers_of_areSorted : {members : List (String × Json)} →
    AreSortedMembers members → {front : List (String × Json)} →
    (∀ m ∈ front, ∀ n ∈ members, m.1 < n.1) → canonicalMembers members front = front ++ members
  | [], _, front, _ => (List.append_nil front).symm
  | (name, value) :: rest, ⟨hlater, hvalue, hrest⟩, front, hfront => by
    have hlast : ∀ m ∈ front, m.1 < name := fun m hm => hfront m hm _ List.mem_cons_self
    have hahead : ∀ m ∈ front ++ [(name, value)], ∀ n ∈ rest, m.1 < n.1 := by
      intro m hm n hn
      rcases List.mem_append.1 hm with hm | hm
      · exact hfront m hm n (List.mem_cons_of_mem _ hn)
      · rw [List.mem_singleton.1 hm]
        exact hlater n hn
    rw [canonicalMembers, canonical_of_isSorted hvalue, insertMember_of_lt value hlast,
      canonicalMembers_of_areSorted hrest hahead, List.append_assoc, List.singleton_append]

end

theorem Sorted.sorted_json (v : Sorted) : v.json.sorted = v := by
  obtain ⟨j, h⟩ := v
  rw [sorted, Sorted.mk.injEq]
  exact canonical_of_isSorted h

theorem asDraft_eq_null_iff {j : Json} : j.asDraft = .null ↔ j = .null := by
  cases j <;> simp [asDraft]

end Json

/-! ## Null -/

namespace Shape

/-- What is written of a shape whose values are never null is not null. -/
theorem encode_ne_null {s : Shape} (hs : s.isNullable = false) (v : s.Val) : s.encode v ≠ .null := by
  cases s with
  | optional s => cases hs
  | anything => cases hs
  | _ => intro h; cases h

/-- In a regular shape only the blank value is written as null. -/
theorem eq_blank_of_encode_eq_null {s : Shape} (hs : s.isRegular = true) {v : s.Val}
    (h : s.encode v = .null) : s.isNullable = true ∧ v = s.blank := by
  cases hnull : s.isNullable with
  | false => exact absurd h (encode_ne_null hnull v)
  | true =>
    refine ⟨rfl, ?_⟩
    cases s with
    | anything =>
      obtain ⟨j, hsorted⟩ := v
      obtain rfl : j = .null := h
      rfl
    | optional s =>
      rw [isRegular, Bool.and_eq_true, Bool.not_eq_true'] at hs
      cases v with
      | none => rfl
      | some v => exact absurd h (encode_ne_null hs.1 v)
    | _ => cases hnull

/-- A shape to whose values null belongs reads it as the blank one. -/
theorem decode_null_of_isNullable {s : Shape} (hs : s.isNullable = true) :
    s.decode (.null : Draft Number) = .ok s.blank := by
  cases s with
  | optional s => rfl
  | anything => rfl
  | _ => cases hs

end Shape

/-! ## Members -/

namespace Fields

/-- Whether a member is left out. -/
def leavesOut (field : Field) (s : Shape) (v : s.Val) : Bool :=
  match field.omitted, s.encode v with
  | true, .null => true
  | _, _ => false

theorem encode_eq_null_of_leavesOut {field : Field} {s : Shape} {v : s.Val}
    (h : leavesOut field s v = true) : s.encode v = .null := by
  unfold leavesOut at h
  split at h
  · assumption
  · cases h

theorem encode_cons (field : Field) (s : Shape) (rest : Fields) (v : s.Val) (vs : rest.Val) :
    (cons field s rest).encode (v, vs) =
      if leavesOut field s v then rest.encode vs else (field.name, s.encode v) :: rest.encode vs := by
  rw [encode]
  split
  · next homitted hnull => simp [leavesOut, homitted, hnull]
  · next hother =>
    have hwritten : leavesOut field s v = false := by
      unfold leavesOut
      split
      · next homitted hnull => exact absurd hnull (hother homitted)
      · rfl
    rw [if_neg (Bool.eq_false_iff.1 hwritten)]

/-- Only names of members are written. -/
theorem mem_names_of_mem_encode : {fields : Fields} → {v : fields.Val} → {m : String × Json} →
    m ∈ fields.encode v → m.1 ∈ fields.names
  | .nil, (), m, h => by simp [encode] at h
  | .cons field s rest, (v, vs), m, h => by
    rw [encode_cons] at h
    have hm : m = (field.name, s.encode v) ∨ m ∈ rest.encode vs := by
      split at h
      · exact .inr h
      · exact List.mem_cons.1 h
    rcases hm with rfl | hm
    · exact List.mem_append_left _ List.mem_cons_self
    · exact List.mem_append_right _ (mem_names_of_mem_encode hm)

end Fields

namespace Json

/-- Members with the drafts of their values. -/
def drafts (draft : Json → Draft Number) (members : List (String × Json)) :
    List (String × Draft Number) :=
  members.map fun m => (m.1, draft m.2)

/-- Members that are taken as drafts are drafts under their names. -/
theorem asMembers_eq_ofList (members : List (String × Json)) :
    asMembers members = .ofList (drafts asDraft members) := by
  induction members with
  | nil => rfl
  | cons m members ih =>
    rw [asMembers, ih]
    rfl

/-- Members that are written for the later fields are not given for the first one. -/
theorem own_drafts_encode (draft : Json → Draft Number) {field : Field} {fields : Fields}
    (h : ∀ name ∈ field.names, name ∉ fields.names) (v : fields.Val) :
    field.own (drafts draft (fields.encode v)) = [] ∧
      field.others (drafts draft (fields.encode v)) = drafts draft (fields.encode v) := by
  have hnames : ∀ m ∈ drafts draft (fields.encode v), field.answersTo m.1 = false := by
    intro m hm
    obtain ⟨written, hwritten, rfl⟩ := List.mem_map.1 hm
    rw [Bool.eq_false_iff]
    exact fun hname => h _ (Field.answersTo_iff.1 hname) (Fields.mem_names_of_mem_encode hwritten)
  refine ⟨List.filter_eq_nil_iff.2 fun m hm => ?_, List.filter_eq_self.2 fun m hm => ?_⟩
  · simp [hnames m hm]
  · simp [hnames m hm]

/-- What is written of members is assembled to what is read of each of them: one that was left out
is read as the null that it would have been. -/
theorem assemble?_drafts_encode_cons {draft : Json → Draft Number} (hnull : draft .null = .null)
    {field : Field} {s : Shape} {rest : Fields}
    (hregular : (Fields.cons field s rest).isRegular = true) (w : s.Val) (ws : rest.Val) {v : s.Val}
    {vs : rest.Val} :
    (Fields.cons field s rest).assemble?
        (drafts draft ((Fields.cons field s rest).encode (w, ws))) = some (v, vs) ↔
      s.decode (draft (s.encode w)) = .ok v ∧
        rest.assemble? (drafts draft (rest.encode ws)) = some vs := by
  obtain ⟨hnames, habsent, hs, -⟩ := Fields.isRegular_cons.1 hregular
  obtain ⟨hown, hothers⟩ := own_drafts_encode draft hnames ws
  rw [Fields.encode_cons]
  refine Fields.assemble?_cons_eq_some.trans ?_
  -- a member that is left out is absent, and its field then has the value that null has
  cases hout : Fields.leavesOut field s w with
  | true =>
    have hw := Fields.encode_eq_null_of_leavesOut hout
    obtain ⟨hnullable, -⟩ := Shape.eq_blank_of_encode_eq_null hs hw
    rw [if_pos rfl, hown, hothers, hw, hnull, Shape.decode_null_of_isNullable hnullable,
      Except.ok.injEq]
    show field.absentValue? s = some v ∧ _ ↔ _
    rw [Field.absentValue?_of_isNullable hnullable (habsent hnullable), Option.some.injEq]
  | false =>
    have hname : field.answersTo field.name = true := Field.answersTo_iff.2 List.mem_cons_self
    rw [if_neg Bool.false_ne_true]
    show field.given s (field.own ((field.name, _) :: drafts draft _)) = _ ∧ _ ↔ _
    rw [Field.own_cons_of_answersTo hname, hown]
    show _ ∧ rest.assemble? (field.others ((field.name, _) :: drafts draft _)) = _ ↔ _
    rw [Field.others_cons_of_answersTo hname, hothers, Fields.given_cons_eq_some]
    exact and_congr_left' (and_iff_right rfl)

end Json

/-! ## Shapes -/

/-- Items that are read again one by one. -/
theorem decode_asItems {α : Type} {encode : α → Json} {decode : Draft Number → Except Fault α}
    (h : ∀ a, decode (encode a).asDraft = .ok a) (as : List α) :
    (Json.asItems (as.map encode)).decode decode = .ok as := by
  induction as with
  | nil => rfl
  | cons a as ih =>
    rw [List.map_cons, Json.asItems, Draft.Items.decode, h, ih]
    rfl

/-- A signed word is read back. -/
theorem signed64_toInt (i : Int64) : Json.signed64 (.integer i.toInt) = .ok i := by
  rw [Json.signed64, if_pos ⟨i.minValue_le_toInt, i.toInt_le⟩, Int64.ofInt_toInt]

/-- An unsigned number is read back if it is in range. -/
theorem unsigned_toNat {n greatest : Nat} (h : n ≤ greatest) (expected : String) :
    Dialect.unsigned greatest expected (Json.ofNat n).asDraft = .ok n := by
  show (if (0 : Int) ≤ n ∧ (n : Int) ≤ greatest then Except.ok (n : Int).toNat else _) = _
  rw [if_pos ⟨by omega, by omega⟩]
  rfl

mutual

/-- What is written of a value of a regular shape is read as that value. -/
theorem Shape.decode_encode : {s : Shape} → s.isRegular = true → (v : s.Val) →
    s.decode (s.encode v).asDraft = .ok v
  | .text, _, _ | .bool, _, _ | .double, _, _ => rfl
  | .signed64, _, i => signed64_toInt i
  | .unsigned32, _, n => by
    have hn : n.toNat ≤ UInt32.size - 1 := Nat.le_sub_one_of_lt n.toNat_lt_size
    show (do return UInt32.ofNat (← Dialect.unsigned _ _ (Json.ofNat n.toNat).asDraft)) = _
    rw [unsigned_toNat hn]
    exact congrArg Except.ok UInt32.ofNat_toNat
  | .unsigned64, _, n => by
    have hn : n.toNat ≤ UInt64.size - 1 := Nat.le_sub_one_of_lt n.toNat_lt_size
    show (do return UInt64.ofNat (← Dialect.unsigned _ _ (Json.ofNat n.toNat).asDraft)) = _
    rw [unsigned_toNat hn]
    exact congrArg Except.ok UInt64.ofNat_toNat
  | .anything, _, v => by
    show (do return Json.sorted (← v.json.asDraft.free)) = _
    -- what is taken as it is has been sorted already
    rw [Json.free_asDraft]
    exact congrArg Except.ok v.sorted_json
  | .optional s, h, v => by
    rw [Shape.isRegular, Bool.and_eq_true, Bool.not_eq_true'] at h
    cases v with
    | none => rfl
    | some v =>
      have hsome : (s.encode v).asDraft ≠ .null :=
        fun hnull => Shape.encode_ne_null h.1 v (Json.asDraft_eq_null_iff.1 hnull)
      show (Shape.optional s).decode (s.encode v).asDraft = _
      rw [Shape.decode_optional hsome, Shape.decode_encode h.2 v]
      rfl
  | .list s, h, vs => decode_asItems (Shape.decode_encode (s := s) h) vs
  | .record _ fields, h, v => by
    show (Shape.record _ fields).decode (.record (Json.asMembers (fields.encode v))) = _
    rw [Json.asMembers_eq_ofList]
    exact Shape.decode_record_eq_ok_iff.2 (Fields.assemble?_encode h v)
  | .choice _ _, h, _ => by cases h

/-- What is written of members is assembled to them. -/
theorem Fields.assemble?_encode : {fields : Fields} → fields.isRegular = true →
    (v : fields.Val) → fields.assemble? (Json.drafts Json.asDraft (fields.encode v)) = some v
  | .nil, _, () => rfl
  | .cons field s rest, h, (v, vs) => by
    obtain ⟨-, -, hs, hrest⟩ := Fields.isRegular_cons.1 h
    exact (Json.assemble?_drafts_encode_cons rfl h v vs).2
      ⟨Shape.decode_encode hs v, Fields.assemble?_encode hrest vs⟩

end

/-- What is written of a document of a regular shape is read as that document. -/
theorem Document.ofJson_toJson {α : Type} [Document α] (hregular : (shape α).isRegular = true)
    (a : α) : ofJson α (toJson a) = .ok a := by
  rw [ofJson, ofDraft, toJson, Shape.decode_encode hregular]
  exact congrArg Except.ok (ofVal_toVal a)

end FabricGauges
