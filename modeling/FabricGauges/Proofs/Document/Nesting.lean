import FabricGauges.Proofs.Document.Edits
import FabricGauges.Proofs.Document.RoundTrip
import FabricGauges.Proofs.Json.Lexing

/-!
# How deep documents are nested

What is read of a text is nested no deeper than the text is or than the shape itself asks for, and
its integers fit words. So it can be written and read again.
-/

namespace FabricGauges

open Draft (Items Members)

/-! ## Values within bounds -/

namespace Json

/-- All integers fit words, and lists and records are nested `depth` deep at most. -/
def FitsIn (depth : Nat) (j : Json) : Prop := j.IsWritable ∧ j.depth ≤ depth

/-- What fits in some depth fits in a greater one. -/
theorem FitsIn.mono {depth depth' : Nat} {j : Json} (h : j.FitsIn depth) (hle : depth ≤ depth') :
    j.FitsIn depth' :=
  ⟨h.1, h.2.trans hle⟩

theorem not_fitsIn_list_zero (items : List Json) : ¬(list items).FitsIn 0 :=
  fun h => Nat.not_succ_le_zero _ h.2

theorem not_fitsIn_record_zero (members : List (String × Json)) : ¬(record members).FitsIn 0 :=
  fun h => Nat.not_succ_le_zero _ h.2

/-- A list fits if its items do, one level below. -/
theorem fitsIn_list {depth : Nat} {items : List Json} :
    (list items).FitsIn (depth + 1) ↔ ∀ j ∈ items, j.FitsIn depth := by
  show AreWritableItems items ∧ depthItems items + 1 ≤ depth + 1 ↔ _
  rw [Nat.succ_le_succ_iff]
  induction items with
  | nil => simp [AreWritableItems, depthItems]
  | cons j items ih =>
    rw [AreWritableItems, depthItems, Nat.max_le, List.forall_mem_cons, ← ih]
    exact and_and_and_comm

/-- A record fits if the values of its members do, one level below. -/
theorem fitsIn_record {depth : Nat} {members : List (String × Json)} :
    (record members).FitsIn (depth + 1) ↔ ∀ m ∈ members, m.2.FitsIn depth := by
  show AreWritableMembers members ∧ depthMembers members + 1 ≤ depth + 1 ↔ _
  rw [Nat.succ_le_succ_iff]
  induction members with
  | nil => simp [AreWritableMembers, depthMembers]
  | cons m members ih =>
    rw [AreWritableMembers, depthMembers, Nat.max_le, List.forall_mem_cons, ← ih]
    exact and_and_and_comm

mutual

/-- Sorting the members of a value does not take it beyond its bounds. -/
theorem FitsIn.canonical : {j : Json} → {depth : Nat} → j.FitsIn depth → j.canonical.FitsIn depth
  | .null, _, h | .bool _, _, h | .number _, _, h | .text _, _, h => h
  | .list items, 0, h => absurd h (not_fitsIn_list_zero items)
  | .list _, _ + 1, h => fitsIn_list.2 (fitsIn_canonicalItems (fitsIn_list.1 h))
  | .record members, 0, h => absurd h (not_fitsIn_record_zero members)
  | .record _, _ + 1, h => fitsIn_record.2 (fitsIn_canonicalMembers (fitsIn_record.1 h) nofun)

/-- Sorting the members of items makes them no deeper. -/
theorem fitsIn_canonicalItems : {items : List Json} → {depth : Nat} →
    (∀ j ∈ items, j.FitsIn depth) → ∀ j ∈ canonicalItems items, j.FitsIn depth
  | [], _, _ => nofun
  | _ :: _, _, h =>
    have h := List.forall_mem_cons.1 h
    List.forall_mem_cons.2 ⟨h.1.canonical, fitsIn_canonicalItems h.2⟩

/-- Sorting members makes them no deeper. -/
theorem fitsIn_canonicalMembers : {members : List (String × Json)} → {depth : Nat} →
    (∀ m ∈ members, m.2.FitsIn depth) → {front : List (String × Json)} →
    (∀ m ∈ front, m.2.FitsIn depth) → ∀ m ∈ canonicalMembers members front, m.2.FitsIn depth
  | [], _, _, _, hfront => hfront
  | (_, _) :: _, _, h, _, hfront => by
    have h := List.forall_mem_cons.1 h
    refine fitsIn_canonicalMembers h.2 fun m hm => ?_
    rcases mem_insertMember hm with rfl | hm
    · exact h.1.canonical
    · exact hfront m hm

end

/-! ## What is taken of a text as it is -/

namespace Tree

/-- The tokens of a tree can be passed over if they can be read, and its integers fit words. -/
def Coherent (t : Tree) : Prop := ∀ token ∈ t.tokens, token.Coherent

theorem tokens_subset_laterItemTokens {item : Tree} {items : List Tree} (h : item ∈ items) :
    item.tokens ⊆ laterItemTokens items := by
  induction items with
  | nil => cases h
  | cons first items ih =>
    intro token htoken
    refine List.mem_cons_of_mem _ (List.mem_append.2 ?_)
    rcases List.mem_cons.1 h with rfl | h
    · exact .inl htoken
    · exact .inr (ih h htoken)

theorem Coherent.item {items : List Tree} (h : (list items).Coherent) :
    ∀ item ∈ items, item.Coherent := by
  intro item hitem token htoken
  apply h
  cases items with
  | nil => cases hitem
  | cons first items =>
    refine List.mem_cons_of_mem _ (List.mem_append.2 ?_)
    rcases List.mem_cons.1 hitem with rfl | hitem
    · exact .inl htoken
    · exact .inr (tokens_subset_laterItemTokens hitem htoken)

theorem tokens_subset_laterMemberTokens {m : TreeMember} {members : List TreeMember}
    (h : m ∈ members) : m.2.tokens ⊆ laterMemberTokens members := by
  induction members with
  | nil => cases h
  | cons first members ih =>
    intro token htoken
    refine List.mem_cons_of_mem _ (List.mem_cons_of_mem _ (List.mem_cons_of_mem _ ?_))
    rw [List.mem_append]
    rcases List.mem_cons.1 h with rfl | h
    · exact .inl htoken
    · exact .inr (ih h htoken)

theorem Coherent.member {members : List TreeMember} (h : (record members).Coherent) :
    ∀ m ∈ members, m.2.Coherent := by
  intro m hm token htoken
  apply h
  cases members with
  | nil => cases hm
  | cons first members =>
    refine List.mem_cons_of_mem _ (List.mem_cons_of_mem _ (List.mem_cons_of_mem _ ?_))
    rw [List.mem_append]
    rcases List.mem_cons.1 hm with rfl | hm
    · exact .inl htoken
    · exact .inr (tokens_subset_laterMemberTokens hm htoken)

mutual

/-- A value that is taken as it is stays within the depth that could be read. -/
theorem fitsIn_of_free : {t : Tree} → t.Coherent → {depth : Nat} → {j : Json} →
    (t.draft depth).free = .ok j → j.FitsIn depth
  | .leaf (.ok .null), _, _, _, h | .leaf (.ok (.bool _)), _, _, _, h
  | .leaf (.ok (.number (.double _))), _, _, _, h | .text (.ok _), _, _, _, h => by
    rw [← Except.ok.inj h]
    exact ⟨trivial, Nat.zero_le _⟩
  | .leaf (.ok (.number (.integer _))), hcoherent, _, _, h => by
    rw [← Except.ok.inj h]
    exact ⟨hcoherent _ List.mem_cons_self, Nat.zero_le _⟩
  | .leaf (.error _), _, _, _, h | .text (.error _), _, _, _, h => by cases h
  | .list _, _, 0, _, h => by cases h
  | .list _, hcoherent, _ + 1, _, h => by
    obtain ⟨js, hjs, hj⟩ := bind_eq_ok.1 h
    rw [← Except.ok.inj hj, fitsIn_list]
    exact fitsIn_of_free_draftItems hcoherent.item hjs
  | .record _, _, 0, _, h => by cases h
  | .record _, hcoherent, _ + 1, _, h => by
    obtain ⟨js, hjs, hj⟩ := bind_eq_ok.1 h
    rw [← Except.ok.inj hj, fitsIn_record]
    exact fitsIn_of_free_draftMembers hcoherent.member hjs

/-- Items that are read in some depth fit in it. -/
theorem fitsIn_of_free_draftItems : {items : List Tree} → (∀ t ∈ items, t.Coherent) →
    {depth : Nat} → {js : List Json} → (draftItems depth items).free = .ok js →
    ∀ j ∈ js, j.FitsIn depth
  | [], _, _, _, h => by
    rw [← Except.ok.inj h]
    exact nofun
  | _ :: _, hcoherent, _, _, h => by
    have hcoherent := List.forall_mem_cons.1 hcoherent
    simp only [draftItems, Items.free, bind_eq_ok] at h
    obtain ⟨j, hj, rest, hrest, hjs⟩ := h
    rw [← Except.ok.inj hjs, List.forall_mem_cons]
    exact ⟨fitsIn_of_free hcoherent.1 hj, fitsIn_of_free_draftItems hcoherent.2 hrest⟩

/-- Members that are read in some depth fit in it. -/
theorem fitsIn_of_free_draftMembers : {members : List TreeMember} →
    (∀ m ∈ members, m.2.Coherent) → {depth : Nat} → {js : List (String × Json)} →
    (draftMembers depth members).free = .ok js → ∀ m ∈ js, m.2.FitsIn depth
  | [], _, _, _, h => by
    rw [← Except.ok.inj h]
    exact nofun
  | (.error _, _) :: _, _, _, _, h => by cases h
  | (.ok _, _) :: _, hcoherent, _, _, h => by
    have hcoherent := List.forall_mem_cons.1 hcoherent
    simp only [draftMembers, Members.free, bind_eq_ok] at h
    obtain ⟨j, hj, rest, hrest, hjs⟩ := h
    rw [← Except.ok.inj hjs, List.forall_mem_cons]
    exact ⟨fitsIn_of_free hcoherent.1 hj, fitsIn_of_free_draftMembers hcoherent.2 hrest⟩

end

end Tree

end Json

/-! ## What is read of a shape -/

mutual

/-- How deep the records and lists of a shape are nested, apart from values that are taken as they
are. -/
def Shape.depth : Shape → Nat
  | .optional s => s.depth
  | .list s => s.depth + 1
  | .record _ fields => fields.depth + 1
  | .text | .bool | .signed64 | .unsigned32 | .unsigned64 | .double | .anything | .choice _ _ => 0

/-- How deep they are nested in members. -/
def Fields.depth : Fields → Nat
  | .nil => 0
  | .cons _ s rest => max s.depth rest.depth

end

/-- A signed word fits in any depth. -/
theorem Json.fitsIn_signed64 (i : Int64) (depth : Nat) : (Json.ofInt i.toInt).FitsIn depth := by
  have hlow := i.minValue_le_toInt
  have hhigh := i.toInt_lt
  refine ⟨⟨hlow, ?_⟩, Nat.zero_le _⟩
  show i.toInt < 18446744073709551616
  omega

/-- An unsigned word fits in any depth. -/
theorem Json.fitsIn_ofNat {n : Nat} (h : n < UInt64.size) (depth : Nat) :
    (Json.ofNat n).FitsIn depth := by
  have hleast : Int64.minValue.toInt ≤ 0 := by decide
  refine ⟨⟨?_, ?_⟩, Nat.zero_le _⟩
  · omega
  · exact_mod_cast h

namespace Fields

variable {field : Field} {s : Shape} {rest : Fields} {depth depth' : Nat}

/-- The members of a record fit if the first value does and the others do. -/
theorem fitsIn_encode_cons {v : s.Val} {vs : rest.Val} (hv : (s.encode v).FitsIn depth)
    (hvs : ∀ m ∈ rest.encode vs, m.2.FitsIn depth') :
    ∀ m ∈ (cons field s rest).encode (v, vs), m.2.FitsIn (max depth depth') := by
  intro m hm
  rw [encode_cons] at hm
  have hm : m = (field.name, s.encode v) ∨ m ∈ rest.encode vs := by
    split at hm
    · exact .inr hm
    · exact List.mem_cons.1 hm
  rcases hm with rfl | hm
  · exact hv.mono (Nat.le_max_left _ _)
  · exact (hvs m hm).mono (Nat.le_max_right _ _)

end Fields

/-- The value of a member that is not there fits where the blank value does. -/
theorem Field.fitsIn_of_absentValue? {field : Field} {s : Shape} {v : s.Val}
    (hblank : (s.encode s.blank).FitsIn s.depth) (h : field.absentValue? s = some v) :
    (s.encode v).FitsIn s.depth := by
  unfold absentValue? at h
  -- what stands for an absent member is the blank value, a text or a number
  cases habsent : field.absent with
  | refused => simp [habsent] at h
  | blank =>
    simp only [habsent, Option.some.injEq] at h
    exact h ▸ hblank
  | text t =>
    cases s with
    | text => exact ⟨trivial, Nat.zero_le _⟩
    | _ =>
      simp only [habsent, Option.some.injEq] at h
      exact h ▸ hblank
  | count n =>
    cases s with
    | unsigned32 => exact Json.fitsIn_ofNat ((UInt32.toNat_lt v).trans (by decide)) 0
    | unsigned64 => exact Json.fitsIn_ofNat (UInt64.toNat_lt v) 0
    | _ =>
      simp only [habsent, Option.some.injEq] at h
      exact h ▸ hblank

theorem Fields.blank_cons (field : Field) (s : Shape) (rest : Fields) :
    (cons field s rest).blank = ((field.absentValue? s).getD s.blank, rest.blank) := by
  obtain ⟨name, aliases, absent, omitted⟩ := field
  cases absent <;> cases s <;> rfl

mutual

/-- The blank value is nested as deep as its shape asks for. -/
theorem Shape.fitsIn_blank : (s : Shape) → (s.encode s.blank).FitsIn s.depth
  | .text | .bool | .double | .anything | .optional _ => ⟨trivial, Nat.zero_le _⟩
  | .signed64 => Json.fitsIn_signed64 0 0
  | .unsigned32 | .unsigned64 => Json.fitsIn_ofNat (by decide) 0
  | .list _ => Json.fitsIn_list.2 nofun
  | .record _ fields => Json.fitsIn_record.2 (Fields.fitsIn_blank fields)
  | .choice _ _ => ⟨trivial, Nat.zero_le _⟩

theorem Fields.fitsIn_blank : (fields : Fields) →
    ∀ m ∈ fields.encode fields.blank, m.2.FitsIn fields.depth
  | .nil => nofun
  | .cons field s rest => by
    have hs := Shape.fitsIn_blank s
    rw [Fields.blank_cons]
    refine Fields.fitsIn_encode_cons ?_ (Fields.fitsIn_blank rest)
    cases habsent : field.absentValue? s with
    | none => exact hs
    | some v => exact Field.fitsIn_of_absentValue? hs habsent

end

/-- Only lists and records are read as such. -/
theorem Json.Tree.exists_of_decode {s : Shape} (hs : (∃ item, s = .list item) ∨
    ∃ name fields, s = .record name fields) {t : Tree} {depth : Nat} {v : s.Val}
    (h : s.decode (t.draft depth) = .ok v) :
    ∃ inner, depth = inner + 1 ∧ ((∃ items, t = .list items) ∨ ∃ members, t = .record members) := by
  -- a draft that is broken off by the depth is not read either
  cases t with
  | leaf read =>
    obtain ⟨item, rfl⟩ | ⟨name, fields, rfl⟩ := hs
    all_goals
      cases read with
      | error fault => cases h
      | ok leaf =>
        cases leaf with
        | number n => cases n <;> cases h
        | _ => cases h
  | text read =>
    obtain ⟨item, rfl⟩ | ⟨name, fields, rfl⟩ := hs
    all_goals cases read <;> cases h
  | list items =>
    cases depth with
    | zero =>
      obtain ⟨item, rfl⟩ | ⟨name, fields, rfl⟩ := hs
      · cases h
      · cases fields <;> cases h
    | succ inner => exact ⟨inner, rfl, .inl ⟨items, rfl⟩⟩
  | record members =>
    cases depth with
    | zero => obtain ⟨item, rfl⟩ | ⟨name, fields, rfl⟩ := hs <;> cases h
    | succ inner => exact ⟨inner, rfl, .inr ⟨members, rfl⟩⟩

/-- Members that are named are drafted from trees. -/
theorem Json.Tree.exists_of_mem_named {depth : Nat} {members : List TreeMember}
    (h : ∀ m ∈ members, m.2.Coherent) :
    ∀ m ∈ named depth members, ∃ t : Json.Tree, t.Coherent ∧ t.draft depth = m.2 := by
  intro m hm
  obtain ⟨written, hwritten, hm⟩ := List.mem_filterMap.1 hm
  split at hm
  · exact ⟨written.2, h written hwritten, congrArg Prod.snd (Option.some.inj hm)⟩
  · cases hm

/-- What is true of every item that was read one by one. -/
theorem Draft.Items.forall_of_decode {α : Type} {decode : Draft Number → Except Fault α}
    {p : α → Prop} {depth : Nat} {items : List Json.Tree}
    (hp : ∀ t ∈ items, ∀ v, decode (t.draft depth) = .ok v → p v) {vs : List α}
    (h : (Json.Tree.draftItems depth items).decode decode = .ok vs) : ∀ v ∈ vs, p v := by
  induction items generalizing vs with
  | nil =>
    rw [← Except.ok.inj h]
    exact nofun
  | cons t items ih =>
    have hp := List.forall_mem_cons.1 hp
    simp only [Json.Tree.draftItems, Items.decode, bind_eq_ok] at h
    obtain ⟨v, hv, rest, hrest, hvs⟩ := h
    rw [← Except.ok.inj hvs, List.forall_mem_cons]
    exact ⟨hp.1 v hv, ih hp.2 hrest⟩

/-- The value of a member fits, whether it is given or not. -/
theorem Field.fitsIn_of_given {field : Field} {s : Shape} {depth : Nat}
    {ms : List (String × Draft Number)} {v : s.Val}
    (hread : ∀ m ∈ ms, ∀ w, s.decode m.2 = .ok w → (s.encode w).FitsIn (max depth s.depth))
    (h : field.given s ms = some v) : (s.encode v).FitsIn (max depth s.depth) := by
  match ms with
  | [] => exact (fitsIn_of_absentValue? s.fitsIn_blank h).mono (Nat.le_max_right _ _)
  | [(name, d)] =>
    obtain ⟨-, hd⟩ := Fields.given_cons_eq_some.1 h
    exact hread _ List.mem_cons_self v hd
  | _ :: _ :: _ => cases h

/-- A list of items that fit fits. -/
theorem Shape.fitsIn_list_of_decode {s : Shape} {depth : Nat} {items : List Json.Tree}
    (hread : ∀ t ∈ items, ∀ v, s.decode (t.draft depth) = .ok v →
      (s.encode v).FitsIn (max depth s.depth)) {vs : List s.Val}
    (h : (Json.Tree.draftItems depth items).decode s.decode = .ok vs) :
    (Json.list (vs.map s.encode)).FitsIn (max (depth + 1) (s.depth + 1)) := by
  have hall : ∀ v ∈ vs, (s.encode v).FitsIn (max depth s.depth) :=
    Draft.Items.forall_of_decode hread h
  exact (Json.fitsIn_list.2 (List.forall_mem_map.2 hall)).mono (Nat.succ_max_succ depth s.depth).ge

/-- A member that a list is too short for is what it is when it is not there. -/
theorem Fields.of_decodeItems_closed {field : Field} {s : Shape} {rest : Fields} {expected : String}
    {index : Nat} {value : s.Val} {values : rest.Val} {left : Items Number}
    (h : (cons field s rest).decodeItems expected index (.done .closed) =
      .ok (joinValues field value values, left)) :
    field.absentValue? s = some value ∧
      rest.decodeItems expected (index + 1) (.done .closed) = .ok (values, left) := by
  simp only [decodeItems, ListEnd.fault?] at h
  cases habsent : field.absentValue? s with
  | none =>
    rw [habsent] at h
    cases h
  | some absent =>
    rw [habsent] at h
    obtain ⟨first, hgiven, hrest⟩ := bind_eq_ok.1 h
    obtain rfl := Except.ok.inj hgiven
    obtain ⟨⟨later, left'⟩, hlater, hall⟩ := bind_eq_ok.1 hrest
    obtain ⟨hvalues, hleft⟩ := Prod.mk.inj (Except.ok.inj hall)
    obtain ⟨hfirst, hvs⟩ := joinValues_inj.1 hvalues
    rw [hfirst, ← hvs, ← hleft]
    exact ⟨rfl, hlater⟩

mutual

/-- What is read of a tree is nested no deeper than could be read or than the shape asks for. -/
theorem Shape.fitsIn_of_decode : {s : Shape} → s.isRegular = true → {t : Json.Tree} →
    t.Coherent → {depth : Nat} → {v : s.Val} → s.decode (t.draft depth) = .ok v →
    (s.encode v).FitsIn (max depth s.depth)
  | .text, _, _, _, _, _, _ | .bool, _, _, _, _, _, _ | .double, _, _, _, _, _, _ =>
    ⟨trivial, Nat.zero_le _⟩
  | .signed64, _, _, _, _, i, _ => Json.fitsIn_signed64 i _
  | .unsigned32, _, _, _, _, n, _ => Json.fitsIn_ofNat ((UInt32.toNat_lt n).trans (by decide)) _
  | .unsigned64, _, _, _, _, n, _ => Json.fitsIn_ofNat (UInt64.toNat_lt n) _
  | .anything, _, _, hcoherent, depth, v, h => by
    obtain ⟨j, hj, rfl⟩ := Shape.decode_anything_eq_ok.1 h
    -- the only values as deep as the text makes them
    exact (Json.Tree.fitsIn_of_free hcoherent hj).canonical.mono (Nat.le_max_left _ _)
  | .optional _, _, _, _, _, none, _ => ⟨trivial, Nat.zero_le _⟩
  | .optional s, hs, t, hcoherent, depth, some v, h => by
    rw [Shape.isRegular, Bool.and_eq_true] at hs
    have hdraft : t.draft depth ≠ .null := by
      intro hnull
      rw [hnull] at h
      cases h
    obtain ⟨w, hw, hv⟩ := (Shape.decode_optional_eq_ok hdraft).1 h
    rw [Option.some.inj hv]
    exact Shape.fitsIn_of_decode hs.2 hcoherent hw
  | .list s, hs, t, hcoherent, depth, vs, h => by
    obtain ⟨inner, rfl, ⟨items, rfl⟩ | ⟨members, rfl⟩⟩ :=
      Json.Tree.exists_of_decode (.inl ⟨_, rfl⟩) h
    · exact Shape.fitsIn_list_of_decode
        (fun t ht v hv => Shape.fitsIn_of_decode (s := s) hs (hcoherent.item t ht) hv) h
    · cases h
  | .record name fields, hs, t, hcoherent, depth, v, h => by
    have hfields : fields.isRegular = true := hs
    obtain ⟨inner, rfl, ⟨items, rfl⟩ | ⟨members, rfl⟩⟩ :=
      Json.Tree.exists_of_decode (.inr ⟨_, _, rfl⟩) h
    · obtain ⟨⟨vs, left⟩, hitems, hclose⟩ := bind_eq_ok.1 h
      obtain ⟨_, -, hv⟩ := bind_eq_ok.1 hclose
      rw [← Except.ok.inj hv]
      have hall := Fields.fitsIn_of_decodeItems hfields hcoherent.item hitems
      exact (Json.fitsIn_record.2 hall).mono (Nat.succ_max_succ inner fields.depth).ge
    · obtain ⟨_, hinner, hnames, hv⟩ := (Shape.decode_record_draft_iff hfields).1 h
      obtain rfl := Nat.succ.inj hinner
      have hall := Fields.fitsIn_of_assemble? hfields
        (Json.Tree.exists_of_mem_named hcoherent.member) hv
      exact (Json.fitsIn_record.2 hall).mono (Nat.succ_max_succ inner fields.depth).ge
  | .choice _ _, hs, _, _, _, _, _ => by cases hs

/-- Fields that are read from members fit in the depth of the text or in their own. -/
theorem Fields.fitsIn_of_assemble? : {fields : Fields} → fields.isRegular = true →
    {depth : Nat} → {ms : List (String × Draft Number)} →
    (∀ m ∈ ms, ∃ t : Json.Tree, t.Coherent ∧ t.draft depth = m.2) → {vs : fields.Val} →
    fields.assemble? ms = some vs → ∀ m ∈ fields.encode vs, m.2.FitsIn (max depth fields.depth)
  | .nil, _, _, _, _, (), _ => nofun
  | .cons field s rest, hregular, depth, ms, hms, (v, vs), h => by
    obtain ⟨-, -, hs, hrest⟩ := Fields.isRegular_cons.1 hregular
    obtain ⟨hv, hvs⟩ := Fields.assemble?_cons_eq_some.1 h
    have hfirst : (s.encode v).FitsIn (max depth s.depth) := by
      refine Field.fitsIn_of_given (fun m hm w hw => ?_) hv
      obtain ⟨t, ht, hdraft⟩ := hms m (List.mem_filter.1 hm).1
      rw [← hdraft] at hw
      exact Shape.fitsIn_of_decode hs ht hw
    have hlater := Fields.fitsIn_of_assemble? hrest
      (fun m hm => hms m (List.mem_filter.1 hm).1) hvs
    exact fun m hm => (Fields.fitsIn_encode_cons hfirst hlater m hm).mono (by grind [Fields.depth])

/-- Fields that are read from items fit in the depth of the text or in their own. -/
theorem Fields.fitsIn_of_decodeItems : {fields : Fields} → fields.isRegular = true →
    {depth : Nat} → {items : List Json.Tree} → (∀ t ∈ items, t.Coherent) → {expected : String} →
    {index : Nat} → {vs : fields.Val} → {left : Items Number} →
    fields.decodeItems expected index (Json.Tree.draftItems depth items) = .ok (vs, left) →
    ∀ m ∈ fields.encode vs, m.2.FitsIn (max depth fields.depth)
  | .nil, _, _, _, _, _, _, (), _, _ => nofun
  | .cons field s rest, hregular, depth, [], _, expected, index, (v, vs), left, h => by
    obtain ⟨-, -, -, hrest⟩ := Fields.isRegular_cons.1 hregular
    -- the list is too short, so the member is what it is when it is absent
    obtain ⟨habsent, hvs⟩ := Fields.of_decodeItems_closed h
    have hfirst := (Field.fitsIn_of_absentValue? s.fitsIn_blank habsent).mono
      (Nat.le_max_right depth _)
    have hlater : ∀ m ∈ rest.encode vs, m.2.FitsIn (max depth rest.depth) :=
      Fields.fitsIn_of_decodeItems hrest (fun t (ht : t ∈ []) => absurd ht List.not_mem_nil) hvs
    exact fun m hm => (Fields.fitsIn_encode_cons hfirst hlater m hm).mono (by grind [Fields.depth])
  | .cons field s rest, hregular, depth, t :: items, hitems, expected, index, (v, vs), left, h => by
    obtain ⟨-, -, hs, hrest⟩ := Fields.isRegular_cons.1 hregular
    have hitems := List.forall_mem_cons.1 hitems
    obtain ⟨w, hw, hlater⟩ := bind_eq_ok.1 h
    obtain ⟨⟨ws, others⟩, hws, hvs⟩ := bind_eq_ok.1 hlater
    obtain ⟨rfl, rfl⟩ := Prod.mk.inj (congrArg Prod.fst (Except.ok.inj hvs))
    have hfirst := Shape.fitsIn_of_decode hs hitems.1 hw
    have hrest := Fields.fitsIn_of_decodeItems hrest hitems.2 hws
    exact fun m hm => (Fields.fitsIn_encode_cons hfirst hrest m hm).mono (by grind [Fields.depth])

end

end FabricGauges
