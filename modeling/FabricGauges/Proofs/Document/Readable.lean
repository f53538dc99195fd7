import FabricGauges.Proofs.Document.Members
import FabricGauges.Proofs.Json.Tree

/-!
# Readable texts

A draft of a text may break off anywhere, and a reader only fails where it looks. A reader of a
regular shape looks at everything: what it does not read it passes over. So a text that could be
read as a document of a regular shape has the tokens of a tree.
-/

namespace FabricGauges

open Draft (Items Members)

/-! ## Drafts that could be read -/

namespace Draft

/-- A draft that can be read as some document of a regular shape. -/
def Sound (d : Draft Number) : Prop := ∃ s : Shape, s.isRegular = true ∧ ∃ v, s.decode d = .ok v

/-- Items that can be read up to an end without a fault. -/
def Items.Sound : Items Number → Prop
  | .done how => how.fault? = none
  | .next item rest => item.Sound ∧ rest.Sound

/-- Members that can be read or passed over up to an end without a fault. -/
def Members.Sound : Members Number → Prop
  | .done fault => fault = none
  | .next _ value blocked rest => (value.Sound ∨ blocked = none) ∧ rest.Sound

end Draft

/-- Any value is kept with its members sorted. -/
theorem Shape.decode_anything_eq_ok {d : Draft Number} {v : Json.Sorted} :
    anything.decode d = .ok v ↔ ∃ j, d.free = .ok j ∧ j.sorted = v := by
  show (do return Json.sorted (← d.free)) = Except.ok v ↔ _
  simp only [bind_eq_ok, pure, Except.pure, Except.ok.injEq]

/-- A draft of which any value can be taken can be read. -/
theorem Draft.sound_of_free {d : Draft Number} {j : Json} (h : d.free = .ok j) : d.Sound :=
  ⟨.anything, rfl, j.sorted, Shape.decode_anything_eq_ok.2 ⟨j, h, rfl⟩⟩

theorem Shape.decode_broken : (s : Shape) → (fault : Fault) →
    s.decode (.broken fault : Draft Number) = .error fault
  | .optional s, fault => by
    rw [decode_optional (d := .broken fault) (by simp), decode_broken s fault]
    rfl
  | .text, _ | .bool, _ | .signed64, _ | .unsigned32, _ | .unsigned64, _ | .double, _ => rfl
  | .anything, _ | .list _, _ | .record _ _, _ | .choice _ _, _ => rfl

theorem Draft.not_sound_broken (fault : Fault) : ¬(Draft.broken fault).Sound := by
  rintro ⟨s, -, v, hv⟩
  rw [s.decode_broken fault] at hv
  cases hv

/-! ## Items -/

namespace Draft.Items

/-- Items that were read one by one. -/
theorem sound_of_decode {s : Shape} (hs : s.isRegular = true) : {items : Items Number} →
    {vs : List s.Val} → items.decode s.decode = .ok vs → items.Sound
  | .done how, vs, h => by
    rw [Items.decode] at h
    show how.fault? = none
    cases hfault : how.fault? with
    | none => rfl
    | some fault => simp [hfault] at h
  | .next item rest, vs, h => by
    simp only [Items.decode, bind_eq_ok] at h
    obtain ⟨v, hitem, vs, hrest, -⟩ := h
    exact ⟨⟨s, hs, v, hitem⟩, sound_of_decode hs hrest⟩

/-- Items that were taken as they are. -/
theorem sound_of_free : {items : Items Number} → {vs : List Json} → items.free = .ok vs →
    items.Sound
  | .done how, vs, h => by
    rw [Items.free] at h
    show how.fault? = none
    cases hfault : how.fault? with
    | none => rfl
    | some fault => simp [hfault] at h
  | .next item rest, vs, h => by
    simp only [Items.free, bind_eq_ok] at h
    obtain ⟨v, hitem, vs, hrest, -⟩ := h
    exact ⟨Draft.sound_of_free hitem, sound_of_free hrest⟩

/-- Nothing was left unread behind the members of a record that is written as a list. -/
theorem sound_of_close {items : Items Number} (hhow : items.how ≠ .loose) {read : Nat}
    (h : items.close read = .ok ()) : items.Sound := by
  cases items with
  | done how =>
    show how.fault? = none
    cases how <;> first | rfl | cases h
  | next item rest =>
    have hrest : rest.how ≠ .loose := hhow
    unfold close at h
    cases hend : rest.how <;> simp_all [how]

end Draft.Items

/-- Items that were read as the members of a record. -/
theorem Fields.sound_of_decodeItems : {fields : Fields} → fields.isRegular = true →
    {expected : String} → {index read : Nat} → {items rest : Items Number} → items.how ≠ .loose →
    {values : fields.Val} → fields.decodeItems expected index items = .ok (values, rest) →
    rest.close read = .ok () → items.Sound
  | .nil, _, _, _, _, items, rest, hhow, values, h, hclose => by
    have hrest : items = rest := congrArg Prod.snd (Except.ok.inj h)
    rw [hrest] at hhow ⊢
    exact Draft.Items.sound_of_close hhow hclose
  | .cons field s later, hregular, _, _, _, .next item items, rest, hhow, values, h, hclose => by
    obtain ⟨-, -, hs, hlater⟩ := isRegular_cons.1 hregular
    simp only [decodeItems, bind_eq_ok] at h
    obtain ⟨value, hitem, ⟨values, left⟩, hitems, hleft⟩ := h
    have hrest : left = rest := congrArg Prod.snd (Except.ok.inj hleft)
    rw [hrest] at hitems
    exact ⟨⟨s, hs, value, hitem⟩, sound_of_decodeItems hlater hhow hitems hclose⟩
  | .cons field s later, _, _, _, _, .done how, rest, hhow, values, h, hclose => by
    show how.fault? = none
    cases hfault : how.fault? with
    | none => rfl
    | some fault => simp [decodeItems, hfault, bind, Except.bind] at h

/-- A list that can be read ends well, as do all of its items. -/
theorem Shape.sound_of_decode_list : {s : Shape} → s.isRegular = true → {items : Items Number} →
    items.how ≠ .loose → {v : s.Val} → s.decode (.list items) = .ok v → items.Sound
  | .optional s, hs, items, hhow, v, h => by
    rw [isRegular, Bool.and_eq_true] at hs
    obtain ⟨v, hv, -⟩ := (decode_optional_eq_ok (d := .list items) (by simp)).1 h
    exact sound_of_decode_list hs.2 hhow hv
  | .list s, hs, items, _, v, h => Draft.Items.sound_of_decode (s := s) hs h
  | .anything, _, items, _, v, h => by
    obtain ⟨j, hfree, -⟩ := decode_anything_eq_ok.1 h
    obtain ⟨vs, hvs, -⟩ := bind_eq_ok.1 hfree
    exact Draft.Items.sound_of_free hvs
  | .record name fields, hs, items, hhow, v, h => by
    have hread : (fields.decodeItems (positional name fields.length) 0 items >>= fun read =>
      read.2.close fields.length >>= fun _ => .ok read.1) = (.ok v : Except Fault fields.Val) := h
    obtain ⟨⟨values, rest⟩, hitems, hrest⟩ := bind_eq_ok.1 hread
    obtain ⟨_, hclose, -⟩ := bind_eq_ok.1 hrest
    exact Fields.sound_of_decodeItems hs hhow hitems hclose
  | .text, _, _, _, _, h | .bool, _, _, _, _, h | .signed64, _, _, _, _, h
  | .double, _, _, _, _, h | .unsigned32, _, _, _, _, h | .unsigned64, _, _, _, _, h => by cases h
  | .choice _ _, hs, _, _, _, _ => by cases hs

/-! ## Members -/

/-- A member that was put into a slot was read. -/
theorem Fields.sound_of_fill : {fields : Fields} → fields.isRegular = true → {name : String} →
    {value : Draft Number} → {slots slots' : fields.Slots} →
    fields.fill name value slots = some (.ok slots') → value.Sound
  | .nil, _, _, _, _, _, h => by cases h
  | .cons field s rest, hregular, name, value, (slot, slots), slots', h => by
    obtain ⟨-, -, hs, hrest⟩ := isRegular_cons.1 hregular
    have hfill : (cons field s rest).fill name value (joinSlots field slot slots) =
      some (.ok slots') := h
    -- it was put into the first slot, or into one of the others
    cases hname : field.answersTo name with
    | true =>
      rw [fill_cons_of_answersTo hname, Option.some.injEq] at hfill
      cases slot with
      | some old => cases hfill
      | none =>
        obtain ⟨v, hv, -⟩ := bind_eq_ok.1 hfill
        exact ⟨s, hs, v, hv⟩
    | false =>
      rw [fill_cons_of_not_answersTo hname] at hfill
      cases hlater : rest.fill name value slots with
      | none => simp [hlater] at hfill
      | some filled =>
        rw [hlater, Option.some.injEq] at hfill
        obtain ⟨slots₁, hslots₁, -⟩ := bind_eq_ok.1 hfill
        rw [hslots₁] at hlater
        exact sound_of_fill hrest hlater

namespace Draft.Members

/-- Members that were put into their slots or passed over. -/
theorem sound_of_gather {fields : Fields} (hregular : fields.isRegular = true) :
    {members : Members Number} → {slots slots' : fields.Slots} →
    members.gather fields.fill slots = .ok slots' → members.Sound
  | .done none, _, _, _ => rfl
  | .done (some fault), _, _, h => by cases h
  | .next name value blocked rest, slots, slots', h => by
    rw [gather_next] at h
    cases hfill : fields.fill name value slots with
    | some filled =>
      rw [hfill] at h
      obtain ⟨slots₁, hslots₁, hrest⟩ := bind_eq_ok.1 h
      rw [hslots₁] at hfill
      exact ⟨.inl (Fields.sound_of_fill hregular hfill), sound_of_gather hregular hrest⟩
    | none =>
      rw [hfill] at h
      cases blocked with
      | some fault => cases h
      | none => exact ⟨.inr rfl, sound_of_gather hregular h⟩

/-- Members that were taken as they are. -/
theorem sound_of_free : {members : Members Number} → {vs : List (String × Json)} →
    members.free = .ok vs → members.Sound
  | .done none, _, _ => rfl
  | .done (some fault), _, h => by cases h
  | .next name value blocked rest, vs, h => by
    simp only [free, bind_eq_ok] at h
    obtain ⟨v, hvalue, vs, hrest, -⟩ := h
    exact ⟨.inl (Draft.sound_of_free hvalue), sound_of_free hrest⟩

end Draft.Members

/-- A record that can be read ends well, and so do the members that were read. -/
theorem Shape.sound_of_decode_record : {s : Shape} → s.isRegular = true →
    {members : Members Number} → {v : s.Val} → s.decode (.record members) = .ok v → members.Sound
  | .optional s, hs, members, v, h => by
    rw [isRegular, Bool.and_eq_true] at hs
    obtain ⟨v, hv, -⟩ := (decode_optional_eq_ok (d := .record members) (by simp)).1 h
    exact sound_of_decode_record hs.2 hv
  | .anything, _, members, v, h => by
    obtain ⟨j, hfree, -⟩ := decode_anything_eq_ok.1 h
    obtain ⟨vs, hvs, -⟩ := bind_eq_ok.1 hfree
    exact Draft.Members.sound_of_free hvs
  | .record name fields, hs, members, v, h => by
    obtain ⟨slots, hslots, -⟩ := bind_eq_ok.1 h
    exact Draft.Members.sound_of_gather hs hslots
  | .text, _, _, _, h | .bool, _, _, _, h | .signed64, _, _, _, h | .double, _, _, _, h
  | .unsigned32, _, _, _, h | .unsigned64, _, _, _, h | .list _, _, _, _, h => by cases h
  | .choice _ _, hs, _, _, _ => by cases hs

theorem Draft.Sound.items {items : Items Number} (hhow : items.how ≠ .loose)
    (h : (Draft.list items).Sound) : items.Sound := by
  obtain ⟨s, hs, v, hv⟩ := h
  exact Shape.sound_of_decode_list hs hhow hv

theorem Draft.Sound.members {members : Members Number} (h : (Draft.record members).Sound) :
    members.Sound := by
  obtain ⟨s, hs, v, hv⟩ := h
  exact Shape.sound_of_decode_record hs hv

/-! ## Texts -/

namespace Json

/-- In the draft of a text, items are not left unread for lack of interest. -/
theorem how_draftItem_ne_loose (depth : Nat) (ts : List Token) :
    (draftItem depth ts).how ≠ .loose := by
  -- on the number of tokens: what follows an item is shorter
  induction hlength : ts.length using Nat.strongRecOn generalizing ts with
  | ind length shorter =>
    cases hrun : Passing.start.run ts with
    | error fault =>
      rw [draftItem_of_error hrun]
      simp [Items.how]
    | ok rest =>
      have hrest := Passing.length_run_lt hrun
      rw [draftItem_of_run hrun]
      show (laterItems depth rest).how ≠ .loose
      unfold laterItems
      split
      case h_5 rest _ _ =>
        rw [List.length_cons] at hrest
        exact shorter rest.length (by omega) rest rfl
      all_goals simp [Items.how]

theorem how_draftItems_ne_loose (depth : Nat) (ts : List Token) :
    (draftItems depth ts).how ≠ .loose := by
  unfold draftItems
  split
  · simp [Items.how]
  · simp [Items.how]
  · exact how_draftItem_ne_loose depth ts

/-- Fewer than `n` tokens of whose draft a value can be read begin with those of a tree. -/
def ReadAsTree (n : Nat) : Prop :=
  ∀ {ts : List Token}, ts.length < n → (∀ t ∈ ts, t.Coherent) → ∀ {depth : Nat},
    (draftValue depth ts).Sound → ∃ (t : Tree) (later : List Token), ts = t.tokens ++ later

theorem exists_items_of_sound {n : Nat} (ih : ReadAsTree n) {ts : List Token}
    (hts : ts.length < n) (hcoherent : ∀ t ∈ ts, t.Coherent) {depth : Nat}
    (h : (draftItem depth ts).Sound) :
    ∃ item items later, ts = Tree.itemTokens (item :: items) ++ later := by
  -- on the tokens that are left: behind the first item there are fewer
  induction hlength : ts.length using Nat.strongRecOn generalizing ts with
  | ind length shorter =>
    have hfirst : (draftValue depth ts).Sound := by
      rw [draftItem] at h
      exact h.1
    obtain ⟨item, others, rfl⟩ := ih hts hcoherent hfirst
    rw [draftItem_of_run (Passing.run_start_tokens item others)] at h
    have hlater : (laterItems depth others).Sound := h.2
    rw [List.length_append] at hts hlength
    have hothers : ∀ t ∈ others, t.Coherent := fun t ht => hcoherent t (List.mem_append_right _ ht)
    unfold laterItems at hlater
    split at hlater
    -- the list ends here
    case h_2 rest => exact ⟨item, [], rest, by simp [Tree.itemTokens, Tree.laterItemTokens]⟩
    -- another item follows
    case h_5 rest _ _ =>
      rw [List.length_cons] at hts hlength
      have hrest := List.forall_mem_cons.1 hothers
      obtain ⟨second, items, later, rfl⟩ :=
        shorter rest.length (by omega) (by omega) hrest.2 hlater rfl
      exact ⟨item, second :: items, later, by simp [Tree.itemTokens, Tree.laterItemTokens]⟩
    all_goals cases hlater

/-- The name of a member, a colon, and a value that was read or passed over. -/
theorem exists_name_of_sound {depth : Nat} {ts : List Token} (h : (draftMember depth ts).Sound) :
    ∃ name blocked rest, ts = .text (.ok name) blocked :: .colon :: rest ∧
      ((draftValue depth rest).Sound ∨ ∃ later, Passing.start.run rest = .ok later) := by
  unfold draftMember at h
  split at h
  case h_1 name blocked rest =>
    refine ⟨name, blocked, rest, rfl, h.1.imp_right fun hpassed => ?_⟩
    cases hrun : Passing.start.run rest with
    | ok later => exact ⟨later, rfl⟩
    | error fault => simp [hrun, Json.blocked] at hpassed
  case h_2 =>
    rcases h.1 with hname | hblocked
    · exact absurd hname (Draft.not_sound_broken _)
    · cases hblocked
  all_goals cases h

theorem exists_members_of_sound {n : Nat} (ih : ReadAsTree n) {ts : List Token}
    (hts : ts.length < n) (hcoherent : ∀ t ∈ ts, t.Coherent) {depth : Nat}
    (h : (draftMember depth ts).Sound) :
    ∃ member members later, ts = Tree.memberTokens (member :: members) ++ later := by
  -- on the tokens that are left, as for items
  induction hlength : ts.length using Nat.strongRecOn generalizing ts with
  | ind length shorter =>
    obtain ⟨name, blocked, afterName, rfl, hvalue⟩ := exists_name_of_sound h
    rw [List.length_cons, List.length_cons] at hts hlength
    obtain ⟨hname, -, hafterName⟩ :
        (Token.text (.ok name) blocked).Coherent ∧ _ ∧ ∀ t ∈ afterName, t.Coherent := by
      simpa only [List.forall_mem_cons] using hcoherent
    obtain ⟨value, others, rfl⟩ : ∃ (value : Tree) (others : List Token),
        afterName = value.tokens ++ others := by
      rcases hvalue with hread | ⟨others, hpassed⟩
      · exact ih (by omega) hafterName hread
      · obtain ⟨value, hothers⟩ := Passing.exists_tree_of_run hpassed
        exact ⟨value, others, hothers⟩
    rw [draftMember_of_run (Passing.run_start_tokens value others)] at h
    have hlater : (laterMembers depth others).Sound := h.2
    rw [List.length_append] at hts hlength
    have hothers : ∀ t ∈ others, t.Coherent :=
      fun t ht => hafterName t (List.mem_append_right _ ht)
    cases blocked with
    | some fault => cases hname
    | none =>
      unfold laterMembers at hlater
      split at hlater
      case h_2 rest =>
        exact ⟨(.ok name, value), [], rest, by simp [Tree.memberTokens, Tree.laterMemberTokens]⟩
      case h_5 rest _ _ =>
        rw [List.length_cons] at hts hlength
        have hrest := List.forall_mem_cons.1 hothers
        obtain ⟨second, members, later, rfl⟩ :=
          shorter rest.length (by omega) (by omega) hrest.2 hlater rfl
        exact ⟨(.ok name, value), second :: members, later,
          by simp [Tree.memberTokens, Tree.laterMemberTokens]⟩
      all_goals cases hlater

/-- A list that could be read has the tokens of a tree. -/
theorem exists_list_of_sound {n : Nat} (ih : ReadAsTree n) {ts : List Token}
    (hts : ts.length < n) (hcoherent : ∀ t ∈ ts, t.Coherent) {depth : Nat}
    (h : (draftItems depth ts).Sound) :
    ∃ items later, ts = Tree.itemTokens items ++ later := by
  unfold draftItems at h
  split at h
  case h_1 => cases h
  case h_2 rest => exact ⟨[], rest, rfl⟩
  case h_3 =>
    obtain ⟨item, items, later, hlater⟩ := exists_items_of_sound ih hts hcoherent h
    exact ⟨item :: items, later, hlater⟩

/-- A record that could be read has the tokens of a tree. -/
theorem exists_record_of_sound {n : Nat} (ih : ReadAsTree n) {ts : List Token}
    (hts : ts.length < n) (hcoherent : ∀ t ∈ ts, t.Coherent) {depth : Nat}
    (h : (draftMembers depth ts).Sound) :
    ∃ members later, ts = Tree.memberTokens members ++ later := by
  unfold draftMembers at h
  split at h
  case h_1 => cases h
  case h_2 rest => exact ⟨[], rest, rfl⟩
  case h_3 =>
    obtain ⟨member, members, later, hlater⟩ := exists_members_of_sound ih hts hcoherent h
    exact ⟨member :: members, later, hlater⟩

/-- Tokens of whose draft a value can be read begin with those of a tree. -/
theorem readAsTree (n : Nat) : ReadAsTree n := by
  induction n with
  | zero => exact fun hts => absurd hts (Nat.not_lt_zero _)
  | succ n ih =>
    intro ts hts hcoherent depth h
    cases ts with
    | nil =>
      simp only [draftValue] at h
      exact absurd h (Draft.not_sound_broken _)
    | cons first rest =>
      obtain ⟨hfirst, hrest⟩ := List.forall_mem_cons.1 hcoherent
      have hlength : rest.length < n := Nat.lt_of_succ_lt_succ hts
      -- a list or a record begins, or the value is complete, or there is none
      cases first with
      | openList =>
        cases depth with
        | zero =>
          simp only [draftValue] at h
          have hdeep : (Items.done .tooDeep).Sound := h.items nofun
          cases hdeep
        | succ depth =>
          simp only [draftValue] at h
          have hitems := h.items (how_draftItems_ne_loose depth rest)
          obtain ⟨items, later, rfl⟩ := exists_list_of_sound ih hlength hrest hitems
          exact ⟨.list items, later, rfl⟩
      | openRecord =>
        cases depth with
        | zero =>
          simp only [draftValue] at h
          cases h.members
        | succ depth =>
          simp only [draftValue] at h
          obtain ⟨members, later, rfl⟩ := exists_record_of_sound ih hlength hrest h.members
          exact ⟨.record members, later, rfl⟩
      | text read blocked =>
        cases read with
        | error fault =>
          simp only [draftValue] at h
          exact absurd h (Draft.not_sound_broken _)
        | ok text =>
          cases blocked with
          | none => exact ⟨.text (.ok text), rest, rfl⟩
          | some fault => cases hfirst
      | leaf read blocked =>
        cases read with
        | error fault =>
          simp only [draftValue] at h
          exact absurd h (Draft.not_sound_broken _)
        | ok leaf =>
          cases blocked with
          | none => exact ⟨.leaf (.ok leaf), rest, rfl⟩
          | some fault => cases hfirst
      | _ =>
        simp only [draftValue] at h
        exact absurd h (Draft.not_sound_broken _)

/-- Tokens that can be read as a document of a regular shape are those of a tree. -/
theorem exists_tree_of_decode {s : Shape} (hs : s.isRegular = true) {ts : List Token}
    (hcoherent : ∀ t ∈ ts, t.Coherent) {v : s.Val} (h : s.decode (readTokens ts).draft = .ok v)
    (hsurplus : (readTokens ts).surplus = none) : ∃ t : Tree, ts = t.tokens := by
  obtain ⟨t, later, rfl⟩ := readAsTree _ (Nat.lt_succ_self _) hcoherent ⟨s, hs, v, h⟩
  have hrun := Passing.run_start_tokens t later
  cases later with
  | nil => exact ⟨t, List.append_nil _⟩
  | cons first later =>
    have hsome : (readTokens (t.tokens ++ first :: later)).surplus =
        some (.malformed .trailingCharacters) := by
      simp only [readTokens, hrun]
    rw [hsome] at hsurplus
    cases hsurplus

end Json

/-! ## Documents -/

namespace Document

variable {α : Type} [Document α]

theorem ofDraft_eq_ok_iff {d : Draft Number} {a : α} :
    ofDraft α d = .ok a ↔ (shape α).decode d = .ok (toVal a) := by
  rw [ofDraft]
  cases (shape α).decode d with
  | error fault => exact ⟨nofun, nofun⟩
  | ok v =>
    constructor
    · intro h
      rw [← Except.ok.inj h, toVal_ofVal]
    · intro h
      rw [Except.ok.inj h]
      exact congrArg Except.ok (ofVal_toVal a)

theorem ofReading_eq_ok_iff {reading : Json.Reading} {a : α} :
    ofReading α reading = .ok a ↔
      (shape α).decode reading.draft = .ok (toVal a) ∧ reading.surplus = none := by
  rw [← ofDraft_eq_ok_iff, ofReading]
  cases ofDraft α reading.draft with
  | error fault => exact ⟨nofun, nofun⟩
  | ok d =>
    cases reading.surplus with
    | some fault => exact ⟨nofun, nofun⟩
    | none => exact ⟨fun h => ⟨h, rfl⟩, fun h => h.1⟩

/-- What is read of the tokens of a tree is what is read of the tree. -/
theorem ofReading_tokens (t : Json.Tree) :
    ofReading α (Json.readTokens t.tokens) = ofDraft α (t.draft Json.depthLimit) := by
  rw [Json.readTokens_tokens, ofReading]
  cases ofDraft α (t.draft Json.depthLimit) <;> rfl

/-- The UTF-8 form of a text is read as the text. -/
theorem ofBytes_utf8 (s : String) : ofBytes α (Text.utf8 s.toList) = ofText α s := by
  rw [ofBytes, Json.readBytes, Json.tokensOfBytes_utf8]
  rfl

end Document

/-- Tokens of which a document of the manager is read are those of a tree. -/
theorem ManagerDocument.exists_tree {k : ManagerDocument} {ts : List Json.Token}
    (hcoherent : ∀ t ∈ ts, t.Coherent) {d : k.Value}
    (h : Document.ofReading k.Value (Json.readTokens ts) = .ok d) :
    ∃ t : Json.Tree, ts = t.tokens := by
  obtain ⟨hread, hsurplus⟩ := Document.ofReading_eq_ok_iff.1 h
  exact Json.exists_tree_of_decode k.isRegular_shape hcoherent hread hsurplus

end FabricGauges
