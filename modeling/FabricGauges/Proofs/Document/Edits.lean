import FabricGauges.Proofs.Document.Readable
import Mathlib.Logic.Relation

/-!
# Edits that make no difference

Managers of other versions add members, leave members out and write them in another order. A `Spot`
is a place in a document where a record of the shape is read, at any depth, and an `Edit` changes
the members there in such a way. What is read of the whole document depends on the record at a spot
only through what is read of it, and the edits leave that alone.
-/

namespace FabricGauges

open Json (Tree)
open Draft (Items Members)

/-! ## Records -/

/-- A member of a record, as its tokens show it. -/
abbrev TreeMember := Except Malformed String × Tree

namespace Json.Tree

/-- The members whose names could be read, drafted. -/
def named (depth : Nat) (members : List TreeMember) : List (String × Draft Number) :=
  members.filterMap fun m =>
    match m.1 with
    | .ok name => some (name, m.2.draft depth)
    | .error _ => none

/-- All names could be read. -/
def NamesRead (members : List TreeMember) : Prop := ∀ m ∈ members, ∃ name, m.1 = .ok name

/-- Members whose names are read make a list of named drafts. -/
theorem draftMembers_eq_ofList (depth : Nat) {members : List TreeMember} (h : NamesRead members) :
    draftMembers depth members = .ofList (named depth members) := by
  induction members with
  | nil => rfl
  | cons m members ih =>
    obtain ⟨⟨name, hname⟩, hrest⟩ := List.forall_mem_cons.1 h
    obtain ⟨read, value⟩ := m
    subst hname
    rw [draftMembers, ih hrest]
    rfl

theorem namesRead_of_sound {depth : Nat} {members : List TreeMember}
    (h : (draftMembers depth members).Sound) : NamesRead members := by
  induction members with
  | nil => exact nofun
  | cons m members ih =>
    obtain ⟨read, value⟩ := m
    cases read with
    | error fault => cases h
    | ok name => exact List.forall_mem_cons.2 ⟨⟨name, rfl⟩, ih h.2⟩

end Json.Tree

open Json.Tree (named NamesRead)

/-- Members come to some values, and all their names could be read. -/
def Fields.ReadAs (fields : Fields) (depth : Nat) (members : List TreeMember)
    (values : fields.Val) : Prop :=
  NamesRead members ∧ fields.assemble? (named depth members) = some values

/-- What is read of a record with named members. -/
theorem Shape.decode_record_draft_iff {name : String} {fields : Fields}
    (hregular : fields.isRegular = true) {depth : Nat} {members : List TreeMember}
    {values : fields.Val} :
    (record name fields).decode ((Tree.record members).draft depth) = .ok values ↔
      ∃ inner, depth = inner + 1 ∧ fields.ReadAs inner members values := by
  cases depth with
  | zero => exact ⟨nofun, by rintro ⟨_, h, -⟩; cases h⟩
  | succ depth =>
    have hread (h : NamesRead members) :
        (record name fields).decode ((Tree.record members).draft (depth + 1)) = .ok values ↔
          fields.assemble? (named depth members) = some values := by
      rw [Tree.draft, Json.Tree.draftMembers_eq_ofList depth h]
      exact decode_record_eq_ok_iff
    constructor
    · intro h
      have hsound := sound_of_decode_record (s := .record name fields) hregular h
      have hnames := Json.Tree.namesRead_of_sound hsound
      exact ⟨depth, rfl, hnames, (hread hnames).1 h⟩
    · rintro ⟨inner, hinner, hnames, h⟩
      obtain rfl := Nat.succ.inj hinner
      exact (hread hnames).2 h

/-! ## Edits of members -/

/-- The members of a record. -/
def Shape.fields : Shape → Fields
  | .record _ fields => fields
  | _ => .nil

/-- A change to the members of a record after which they mean the same. -/
inductive Fields.Edit (fields : Fields) : List TreeMember → List TreeMember → Prop
  /-- A member is added that the shape does not know. -/
  | add (before after : List TreeMember) {name : String} (h : fields.place? name = none)
    (value : Tree) : Edit fields (before ++ after) (before ++ (.ok name, value) :: after)
  /-- Members are written in another order. -/
  | permute {members members' : List TreeMember} (h : members.Perm members') :
    Edit fields members members'
  /-- A member that is null is left out. -/
  | drop (before after : List TreeMember) (name : Except Malformed String) :
    Edit fields (before ++ (name, .leaf (.ok .null)) :: after) (before ++ after)
  /-- A member is given under another one of its names. -/
  | rename (before after : List TreeMember) (value : Tree) {name name' : String}
    (h : fields.place? name = fields.place? name') :
    Edit fields (before ++ (.ok name, value) :: after) (before ++ (.ok name', value) :: after)

namespace Json.Tree

/-- Reordered members are reordered under their names. -/
theorem named_perm (depth : Nat) {members members' : List TreeMember} (h : members.Perm members') :
    (named depth members).Perm (named depth members') :=
  h.filterMap _

theorem NamesRead.perm {members members' : List TreeMember} (hnames : NamesRead members)
    (h : members.Perm members') : NamesRead members' :=
  fun m hm => hnames m (h.mem_iff.2 hm)

theorem named_cons (depth : Nat) (name : String) (value : Tree) (members : List TreeMember) :
    named depth ((.ok name, value) :: members) = (name, value.draft depth) :: named depth members :=
  rfl

theorem namesRead_cons {name : Except Malformed String} {value : Tree}
    {members : List TreeMember} :
    NamesRead ((name, value) :: members) ↔ (∃ read, name = .ok read) ∧ NamesRead members :=
  List.forall_mem_cons

end Json.Tree

open Json.Tree (named_perm NamesRead.perm named_cons namesRead_cons)

namespace Fields

variable {fields : Fields} {depth : Nat} {members members' : List TreeMember} {values : fields.Val}

/-- Members are read alike in any order. -/
theorem ReadAs.perm (h : fields.ReadAs depth members values) (hperm : members.Perm members') :
    fields.ReadAs depth members' values := by
  refine ⟨h.1.perm hperm, ?_⟩
  rw [← assemble?_perm (named_perm depth hperm)]
  exact h.2

/-- A member may be looked at as the first one. -/
theorem readAs_middle {before after : List TreeMember} {m : TreeMember} :
    fields.ReadAs depth (before ++ m :: after) values ↔
      fields.ReadAs depth (m :: (before ++ after)) values :=
  ⟨fun h => h.perm List.perm_middle, fun h => h.perm List.perm_middle.symm⟩

/-- Members are read if the first one's name is, and the fields are assembled from all of them. -/
theorem readAs_cons {name : String} {value : Tree} :
    fields.ReadAs depth ((.ok name, value) :: members) values ↔ NamesRead members ∧
      fields.assemble? ((name, value.draft depth) :: named depth members) = some values := by
  rw [ReadAs, namesRead_cons, named_cons]
  exact ⟨fun h => ⟨h.1.2, h.2⟩, fun h => ⟨⟨⟨name, rfl⟩, h.1⟩, h.2⟩⟩

/-- Edited members come to the same values. -/
theorem Edit.readAs (h : fields.Edit members members') (hregular : fields.isRegular = true)
    (hread : fields.ReadAs depth members values) : fields.ReadAs depth members' values := by
  cases h with
  | add before after hunknown value =>
    rw [readAs_middle, readAs_cons, assemble?_cons_of_unknown hunknown]
    exact hread
  | permute hperm => exact hread.perm hperm
  | drop before after name =>
    rw [readAs_middle] at hread
    obtain ⟨read, rfl⟩ := (namesRead_cons.1 hread.1).1
    obtain ⟨hnames, hvalues⟩ := readAs_cons.1 hread
    exact ⟨hnames, assemble?_of_cons_null hregular hvalues⟩
  | rename before after value hplace =>
    rw [readAs_middle, readAs_cons] at hread ⊢
    rw [← assemble?_cons_of_place?_eq hplace]
    exact hread

end Fields

/-! ## Spots -/

/-- The shape of the member at a place. -/
def Fields.shapeAt? : Fields → Nat → Option Shape
  | .nil, _ => none
  | .cons _ s _, 0 => some s
  | .cons _ _ rest, i + 1 => rest.shapeAt? i

theorem Fields.isRegular_of_shapeAt? : {fields : Fields} → fields.isRegular = true → {i : Nat} →
    {s : Shape} → fields.shapeAt? i = some s → s.isRegular = true
  | .nil, _, _, _, h => by cases h
  | .cons _ _ _, hregular, 0, _, h => by
    rw [← Option.some.inj h]
    exact (isRegular_cons.1 hregular).2.2.1
  | .cons _ _ _, hregular, _ + 1, _, h =>
    isRegular_of_shapeAt? (isRegular_cons.1 hregular).2.2.2 h

theorem Fields.isRegular_of_shapeOf? : {fields : Fields} → fields.isRegular = true →
    {name : String} → {s : Shape} → fields.shapeOf? name = some s → s.isRegular = true
  | .nil, _, _, _, h => by cases h
  | .cons field _ _, hregular, name, _, h => by
    obtain ⟨-, -, hs, hrest⟩ := isRegular_cons.1 hregular
    rw [shapeOf?] at h
    split at h
    · rwa [← Option.some.inj h]
    · exact isRegular_of_shapeOf? hrest h

/-- The places in a tree of some shape where a record of another shape is read, each with what
stands around it. -/
inductive Spot (name : String) (fields : Fields) : Shape → Type where
  | here : Spot name fields (.record name fields)
  | optional {s : Shape} (spot : Spot name fields s) : Spot name fields (.optional s)
  | item {s : Shape} (before : List Tree) (spot : Spot name fields s) (after : List Tree) :
    Spot name fields (.list s)
  /-- In a member of another record. -/
  | member {outer : String} {others : Fields} {s : Shape} (before : List TreeMember)
    (key : String) (h : others.shapeOf? key = some s) (spot : Spot name fields s)
    (after : List TreeMember) : Spot name fields (.record outer others)
  /-- In another record that is written as a list. -/
  | position {outer : String} {others : Fields} {s : Shape} (before : List Tree)
    (h : others.shapeAt? before.length = some s) (spot : Spot name fields s) (after : List Tree) :
    Spot name fields (.record outer others)

namespace Spot

variable {name : String} {fields : Fields}

/-- The tree with a record at the spot. -/
def fill {s : Shape} : Spot name fields s → List TreeMember → Tree
  | here, members => .record members
  | optional spot, members => spot.fill members
  | item before spot after, members => .list (before ++ spot.fill members :: after)
  | member before key _ spot after, members =>
    .record (before ++ (.ok key, spot.fill members) :: after)
  | position before _ spot after, members => .list (before ++ spot.fill members :: after)

theorem draft_fill_ne_null {s : Shape} (spot : Spot name fields s) (members : List TreeMember)
    (depth : Nat) : (spot.fill members).draft depth ≠ .null := by
  induction spot with
  | optional spot ih => exact ih
  | _ => cases depth <;> nofun

end Spot

/-- What is read of items depends on one of them only through what is read of it. -/
theorem Draft.Items.exists_decode_of_item {α : Type} {decode : Draft Number → Except Fault α}
    {depth : Nat} {before after : List Tree} {t : Tree} {as : List α}
    (h : (Json.Tree.draftItems depth (before ++ t :: after)).decode decode = .ok as) :
    ∃ a, decode (t.draft depth) = .ok a ∧ ∀ t' : Tree, decode (t'.draft depth) = .ok a →
      (Json.Tree.draftItems depth (before ++ t' :: after)).decode decode = .ok as := by
  induction before generalizing as with
  | nil =>
    rw [List.nil_append, Json.Tree.draftItems, Items.decode] at h
    obtain ⟨a, ha, hrest⟩ := bind_eq_ok.1 h
    refine ⟨a, ha, fun t' ht' => ?_⟩
    rw [List.nil_append, Json.Tree.draftItems, Items.decode]
    exact bind_eq_ok.2 ⟨a, ht', hrest⟩
  | cons first before ih =>
    rw [List.cons_append, Json.Tree.draftItems, Items.decode] at h
    obtain ⟨b, hb, hrest⟩ := bind_eq_ok.1 h
    obtain ⟨bs, hbs, has⟩ := bind_eq_ok.1 hrest
    obtain ⟨a, ha, hsame⟩ := ih hbs
    refine ⟨a, ha, fun t' ht' => ?_⟩
    rw [List.cons_append, Json.Tree.draftItems, Items.decode]
    exact bind_eq_ok.2 ⟨b, hb, bind_eq_ok.2 ⟨bs, hsame t' ht', has⟩⟩

/-- What is read of the members of a record that is written as a list depends on one of them only
through what is read of it. -/
theorem Fields.exists_decode_of_position : {fields : Fields} → {before : List Tree} → {s : Shape} →
    fields.shapeAt? before.length = some s → {expected : String} → {index depth : Nat} →
    {t : Tree} → {after : List Tree} → {read : fields.Val × Items Number} →
    fields.decodeItems expected index (Json.Tree.draftItems depth (before ++ t :: after)) =
      .ok read →
    ∃ a, s.decode (t.draft depth) = .ok a ∧ ∀ t' : Tree, s.decode (t'.draft depth) = .ok a →
      fields.decodeItems expected index (Json.Tree.draftItems depth (before ++ t' :: after)) =
        .ok read
  | .nil, _, _, h, _, _, _, _, _, _, _ => by cases h
  | .cons field s₀ rest, [], s, h, expected, index, depth, t, after, read, hread => by
    obtain rfl : s₀ = s := Option.some.inj h
    rw [List.nil_append, Json.Tree.draftItems, decodeItems] at hread
    obtain ⟨a, ha, hrest⟩ := bind_eq_ok.1 hread
    refine ⟨a, ha, fun t' ht' => ?_⟩
    rw [List.nil_append, Json.Tree.draftItems, decodeItems]
    exact bind_eq_ok.2 ⟨a, ht', hrest⟩
  | .cons field s₀ rest, first :: before, s, h, expected, index, depth, t, after, read, hread => by
    have hlater : rest.shapeAt? before.length = some s := h
    rw [List.cons_append, Json.Tree.draftItems, decodeItems] at hread
    obtain ⟨b, hb, hrest⟩ := bind_eq_ok.1 hread
    obtain ⟨later, hlaterRead, hread⟩ := bind_eq_ok.1 hrest
    obtain ⟨a, ha, hsame⟩ := exists_decode_of_position hlater hlaterRead
    refine ⟨a, ha, fun t' ht' => ?_⟩
    rw [List.cons_append, Json.Tree.draftItems, decodeItems]
    exact bind_eq_ok.2 ⟨b, hb, bind_eq_ok.2 ⟨later, hsame t' ht', hread⟩⟩

/-- What is read of a tree depends on the record at a spot only through what is read of it. -/
theorem Spot.exists_decode {name : String} {fields : Fields} {s : Shape} (spot : Spot name fields s)
    (hregular : s.isRegular = true) {members : List TreeMember} {depth : Nat} {v : s.Val}
    (h : s.decode ((spot.fill members).draft depth) = .ok v) :
    ∃ inner values, (Shape.record name fields).decode ((Tree.record members).draft inner) =
        .ok values ∧
      ∀ members', (Shape.record name fields).decode ((Tree.record members').draft inner) =
        .ok values → s.decode ((spot.fill members').draft depth) = .ok v := by
  -- on the way to the record; each step is one level of what is read
  induction spot generalizing depth with
  | here => exact ⟨depth, v, h, fun _ h' => h'⟩
  | optional spot ih =>
    rw [Shape.isRegular, Bool.and_eq_true] at hregular
    obtain ⟨w, hw, rfl⟩ := (Shape.decode_optional_eq_ok (spot.draft_fill_ne_null members depth)).1 h
    obtain ⟨inner, values, hread, hsame⟩ := ih hregular.2 hw
    refine ⟨inner, values, hread, fun members' h' => ?_⟩
    have hnull := spot.draft_fill_ne_null members' depth
    exact (Shape.decode_optional_eq_ok hnull).2 ⟨w, hsame members' h', rfl⟩
  | item before spot after ih =>
    cases depth with
    | zero => cases h
    | succ depth =>
      obtain ⟨a, ha, houter⟩ := Draft.Items.exists_decode_of_item h
      obtain ⟨inner, values, hread, hsame⟩ := ih hregular ha
      exact ⟨inner, values, hread, fun members' h' => houter _ (hsame members' h')⟩
  | member before key hkey spot after ih =>
    obtain ⟨level, rfl, houter⟩ := (Shape.decode_record_draft_iff hregular).1 h
    obtain ⟨hnames, hvalues⟩ := Fields.readAs_cons.1 (Fields.readAs_middle.1 houter)
    obtain ⟨a, ha, hvalue⟩ := Fields.exists_decode_of_assemble? hkey hvalues
    obtain ⟨inner, values, hread, hsame⟩ := ih (Fields.isRegular_of_shapeOf? hregular hkey) ha
    refine ⟨inner, values, hread, fun members' h' => ?_⟩
    have hedited := Fields.readAs_cons.2 ⟨hnames, hvalue _ (hsame members' h')⟩
    exact (Shape.decode_record_draft_iff hregular).2
      ⟨level, rfl, Fields.readAs_middle.2 hedited⟩
  | position before hplace spot after ih =>
    cases depth with
    | zero =>
      have hdeep : (Items.done .tooDeep).Sound := Shape.sound_of_decode_list hregular nofun h
      cases hdeep
    | succ depth =>
      obtain ⟨read, hitems, hrest⟩ := bind_eq_ok.1 h
      obtain ⟨a, ha, houter⟩ := Fields.exists_decode_of_position hplace hitems
      obtain ⟨inner, values, hread, hsame⟩ := ih (Fields.isRegular_of_shapeAt? hregular hplace) ha
      refine ⟨inner, values, hread, fun members' h' => ?_⟩
      exact bind_eq_ok.2 ⟨read, houter _ (hsame members' h'), hrest⟩

theorem Spot.isRegular {name : String} {fields : Fields} {s : Shape} (spot : Spot name fields s)
    (h : s.isRegular = true) : fields.isRegular = true := by
  induction spot with
  | here => exact h
  | optional spot ih =>
    rw [Shape.isRegular, Bool.and_eq_true] at h
    exact ih h.2
  | item before spot after ih => exact ih h
  | member before key hkey spot after ih => exact ih (Fields.isRegular_of_shapeOf? h hkey)
  | position before hplace spot after ih => exact ih (Fields.isRegular_of_shapeAt? h hplace)

/-! ## Trees -/

/-- The members at a spot of a tree are edited. -/
inductive Shape.Edited (s : Shape) : Tree → Tree → Prop
  | of_spot {name : String} {fields : Fields} (spot : Spot name fields s)
    {members members' : List TreeMember} (h : fields.Edit members members') :
    Edited s (spot.fill members) (spot.fill members')

/-- At a spot of a tree, a member is given twice, under one name or under two of its names. -/
inductive Shape.Repeats (s : Shape) : Tree → Prop
  | of_spot {name : String} {fields : Fields} (spot : Spot name fields s) {key key' : String}
    {i : Nat} (h : fields.place? key = some i) (h' : fields.place? key' = some i)
    (value value' : Tree) (before between after : List TreeMember) :
    Repeats s <| spot.fill <|
      before ++ (.ok key, value) :: (between ++ (.ok key', value') :: after)

namespace Shape

variable {s : Shape} {t t' : Tree} {depth : Nat} {v : s.Val}

/-- An edited tree is read as the tree is. -/
theorem Edited.decode (h : s.Edited t t') (hregular : s.isRegular = true)
    (hv : s.decode (t.draft depth) = .ok v) : s.decode (t'.draft depth) = .ok v := by
  obtain @⟨name, fields, spot, members, members', hedit⟩ := h
  have hfields := spot.isRegular hregular
  obtain ⟨inner, values, hread, hsame⟩ := spot.exists_decode hregular hv
  obtain ⟨level, hlevel, hvalues⟩ := (decode_record_draft_iff hfields).1 hread
  have hedited := hedit.readAs hfields hvalues
  exact hsame members' ((decode_record_draft_iff hfields).2 ⟨level, hlevel, hedited⟩)

/-- Nothing is read of a tree in which a member is given twice. -/
theorem Repeats.decode_ne_ok (h : s.Repeats t) (hregular : s.isRegular = true) :
    s.decode (t.draft depth) ≠ .ok v := by
  intro hv
  obtain @⟨name, fields, spot, key, key', i, hkey, hkey', value, value', before, between, after⟩ := h
  obtain ⟨inner, values, hread, -⟩ := spot.exists_decode hregular hv
  obtain ⟨level, -, hvalues⟩ := (decode_record_draft_iff (spot.isRegular hregular)).1 hread
  have hfirst : fields.ReadAs level
      ((.ok key, value) :: (.ok key', value') :: (before ++ (between ++ after))) values :=
    hvalues.perm <| List.perm_middle.trans <| .cons _ <|
      (List.perm_middle.append_left before).trans List.perm_middle
  have htwice := (Fields.readAs_cons.1 hfirst).2
  rw [Json.Tree.named_cons, Fields.assemble?_cons_cons_eq_none hkey hkey'] at htwice
  cases htwice

end Shape

/-! ## Texts -/

/-- What is read of a text is what is read of its tree. -/
theorem Document.ofText_of_tokens {α : Type} [Document α] {text : String} {t : Tree}
    (h : Json.tokens text = t.tokens) :
    Document.ofText α text = Document.ofDraft α (t.draft Json.depthLimit) := by
  rw [Document.ofText, Json.read, h, Document.ofReading_tokens]

namespace ManagerDocument

/-- A text of which a document of the manager is read has the tokens of a tree. The document stays
the same under edits of the members of records anywhere in it, and no document is read of a text in
which a member is given twice anywhere. The two members of the state of a gateway have three names
each. -/
theorem read_in_spite_of_edits (k : ManagerDocument) (text : String) :
    (∀ d, Document.ofText k.Value text = .ok d → ∃ t : Tree, Json.tokens text = t.tokens) ∧
    (∀ t t' : Tree, Json.tokens text = t.tokens → Relation.ReflTransGen k.shape.Edited t t' →
      ∀ text', Json.tokens text' = t'.tokens → ∀ d, Document.ofText k.Value text = .ok d →
        Document.ofText k.Value text' = .ok d) ∧
    (∀ t : Tree, Json.tokens text = t.tokens → k.shape.Repeats t →
      ∃ fault, Document.ofText k.Value text = .error fault) ∧
    (∀ name ∈ ["state", "tier0_state", "tier1_state"],
      gatewayState.shape.fields.place? name = some 0) ∧
    ∀ name ∈ ["status", "tier0_status", "tier1_status"],
      gatewayState.shape.fields.place? name = some 1 := by
  refine ⟨?_, ?_, ?_, by decide +kernel, by decide +kernel⟩
  · exact fun d hd => ManagerDocument.exists_tree Json.coherent_of_mem_tokens hd
  · intro t t' htokens hedited text' htokens' d hd
    rw [Document.ofText_of_tokens htokens, Document.ofDraft_eq_ok_iff] at hd
    rw [Document.ofText_of_tokens htokens', Document.ofDraft_eq_ok_iff]
    clear htokens'
    -- one edit after the other
    induction hedited with
    | refl => exact hd
    | tail _ hstep ih => exact hstep.decode k.isRegular_shape ih
  · intro t htokens hrepeats
    rw [Document.ofText_of_tokens htokens]
    cases hd : Document.ofDraft k.Value (t.draft Json.depthLimit) with
    | error fault => exact ⟨fault, rfl⟩
    | ok d =>
      exact absurd (Document.ofDraft_eq_ok_iff.1 hd) (hrepeats.decode_ne_ok k.isRegular_shape)

/-- The state of a gateway with another name for a member, without a member that is null, with one
that is not known, and in another order; and with a member that is given twice. -/
theorem gateway_state_read_in_spite_of_edits :
    let text :=
      "\x7b\"tier0_state\":\x7b\"state\":\"up\",\"failure_code\":null\x7d,\"status\":\x7b\x7d\x7d"
    let text' := "\x7b\"status\":\x7b\x7d,\"state\":\x7b\"state\":\"up\"\x7d,\"links\":[true]\x7d"
    let twice := "\x7b\"tier0_state\":\x7b\x7d,\"status\":\x7b\x7d,\"state\":\x7b\x7d\x7d"
    let d : GatewayState := ⟨⟨none, some "up", none, none, []⟩, ⟨none, []⟩⟩
    Document.ofText GatewayState text = .ok d ∧ Document.ofText GatewayState text' = .ok d ∧
      ∃ fault, Document.ofText GatewayState twice = .error fault := by
  intro text text' twice d
  obtain ⟨-, hsame, -⟩ := gatewayState.read_in_spite_of_edits text
  obtain ⟨-, -, hrejected, -⟩ := gatewayState.read_in_spite_of_edits twice
  let named (name : String) (value : Tree) : TreeMember := (.ok name, value)
  let up := named "state" (.text (.ok "up"))
  let code := named "failure_code" (.leaf (.ok .null))
  let status := named "status" (.record [])
  let links := named "links" (.list [.leaf (.ok (.bool true))])
  have htokens : Json.tokens text =
      (Tree.record [named "tier0_state" (.record [up, code]), status]).tokens := by decide +kernel
  have htokens' : Json.tokens text' =
      (Tree.record [status, named "state" (.record [up]), links]).tokens := by decide +kernel
  have hread : Document.ofText GatewayState text = .ok d := Document.ofText_of_tokens htokens
  -- the four edits, one after the other
  have hrenamed : gatewayState.shape.Edited
      (.record [named "tier0_state" (.record [up, code]), status])
      (.record [named "state" (.record [up, code]), status]) :=
    .of_spot .here (.rename [] [status] _ (by decide +kernel))
  let inState : Spot "LogicalRouterState" routerState.shape.fields gatewayState.shape :=
    .member [] "state" (show _ = some routerState.shape from rfl) .here [status]
  have hdropped : gatewayState.shape.Edited
      (.record [named "state" (.record [up, code]), status])
      (.record [named "state" (.record [up]), status]) :=
    .of_spot inState (.drop [up] [] _)
  have hadded : gatewayState.shape.Edited
      (.record [named "state" (.record [up]), status])
      (.record [named "state" (.record [up]), status, links]) :=
    .of_spot .here (.add [_, status] [] (by decide +kernel) _)
  have hpermuted : gatewayState.shape.Edited
      (.record [named "state" (.record [up]), status, links])
      (.record [status, named "state" (.record [up]), links]) :=
    .of_spot .here (.permute (.swap _ _ _))
  have hedited : Relation.ReflTransGen gatewayState.shape.Edited _ _ :=
    .tail (.tail (.tail (.single hrenamed) hdropped) hadded) hpermuted
  have hfirst : gatewayState.shape.fields.place? "tier0_state" = some 0 := by decide +kernel
  have hsecond : gatewayState.shape.fields.place? "state" = some 0 := by decide +kernel
  have hrepeats : gatewayState.shape.Repeats
      (.record [named "tier0_state" (.record []), status, named "state" (.record [])]) :=
    .of_spot .here hfirst hsecond _ _ [] [status] []
  have htokensTwice : Json.tokens twice = (Tree.record
      [named "tier0_state" (.record []), status, named "state" (.record [])]).tokens := by
    decide +kernel
  exact ⟨hread, hsame _ _ htokens hedited text' htokens' d hread, hrejected _ htokensTwice hrepeats⟩

end ManagerDocument

end FabricGauges
