import FabricGauges.Json.Draft

/-!
# The trees of JSON texts

The tokens of a document are those of a tree, whose leaves may still be texts and numbers that
cannot be read. Passing over a value passes over the tokens of a tree, and what can be passed over
are the tokens of a tree. What is drafted of the tokens of a tree is read off the tree.
-/

namespace FabricGauges.Json

open Draft (Items Members)

/-- A document as its tokens show it. -/
inductive Tree where
  | leaf (read : Except Malformed Leaf)
  | text (read : Except Malformed String)
  | list (items : List Tree)
  | record (members : List (Except Malformed String × Tree))

namespace Tree

mutual

/-- The tokens of a tree. -/
def tokens : Tree → List Token
  | .leaf read => [.leaf read none]
  | .text read => [.text read none]
  | .list items => .openList :: itemTokens items
  | .record members => .openRecord :: memberTokens members

/-- The tokens of the items of a list, and of its end. -/
def itemTokens : List Tree → List Token
  | [] => [.closeList]
  | item :: rest => item.tokens ++ laterItemTokens rest

/-- The tokens of items that follow others, and of the end of their list. -/
def laterItemTokens : List Tree → List Token
  | [] => [.closeList]
  | item :: rest => .comma :: (item.tokens ++ laterItemTokens rest)

/-- The tokens of the members of a record, and of its end. -/
def memberTokens : List (Except Malformed String × Tree) → List Token
  | [] => [.closeRecord]
  | (name, value) :: rest =>
    .text name none :: .colon :: (value.tokens ++ laterMemberTokens rest)

/-- The tokens of members that follow others, and of the end of their record. -/
def laterMemberTokens : List (Except Malformed String × Tree) → List Token
  | [] => [.closeRecord]
  | (name, value) :: rest =>
    .comma :: .text name none :: .colon :: (value.tokens ++ laterMemberTokens rest)

end

mutual

/-- What is drafted of a tree, in which lists and records may be nested as deep as `depth` says. -/
def draft (depth : Nat) : Tree → Draft Number
  | .leaf (.ok .null) => .null
  | .leaf (.ok (.bool b)) => .bool b
  | .leaf (.ok (.number n)) => .number n
  | .text (.ok s) => .text s
  | .leaf (.error fault) | .text (.error fault) => .broken (.malformed fault)
  | .list items =>
    match depth with
    | 0 => .list (.done .tooDeep)
    | depth + 1 => .list (draftItems depth items)
  | .record members =>
    match depth with
    | 0 => .record (.done (some (.malformed .tooDeep)))
    | depth + 1 => .record (draftMembers depth members)

/-- What is drafted of items. -/
def draftItems (depth : Nat) : List Tree → Items Number
  | [] => .done .closed
  | item :: rest => .next (item.draft depth) (draftItems depth rest)

/-- What is drafted of members: nothing behind a name that cannot be read. -/
def draftMembers (depth : Nat) : List (Except Malformed String × Tree) → Members Number
  | [] => .done none
  | (.ok name, value) :: rest => .next name (value.draft depth) none (draftMembers depth rest)
  | (.error fault, _) :: _ => .done (some (.malformed fault))

end

end Tree

/-! ## Passing over trees -/

/-- Whether a token is the first one of a value. -/
def Token.beginsValue : Token → Bool
  | openList | openRecord | text _ _ | leaf _ _ => true
  | closeList | closeRecord | comma | colon | stray => false

/-- The tokens of a tree begin with one that begins a value. -/
theorem Tree.exists_head (t : Tree) (rest : List Token) :
    ∃ first later, t.tokens ++ rest = first :: later ∧ first.beginsValue = true := by
  cases t with
  | leaf read => exact ⟨_, _, rfl, rfl⟩
  | text read => exact ⟨_, _, rfl, rfl⟩
  | list items => exact ⟨_, _, rfl, rfl⟩
  | record members => exact ⟨_, _, rfl, rfl⟩

namespace Passing

/-- Passing over what follows a value, if it is inside of something. -/
def resume (frames : List Frame) (rest : List Token) : Except Malformed (List Token) :=
  match afterValue frames with
  | none => .ok rest
  | some p => p.run rest

/-- A value may end with a token. -/
theorem run_of_step {p : Passing} {t : Token} {frames : List Frame}
    (h : p.step t = .ok (afterValue frames)) (rest : List Token) :
    p.run (t :: rest) = resume frames rest := by
  rw [run, h, resume]
  cases afterValue frames <;> rfl

/-- The first item of a list is passed over as a value. -/
theorem run_first_item {first : Token} (h : first.beginsValue = true) (frames : List Frame)
    (later : List Token) : run ⟨.firstOrEnd, .list :: frames⟩ (first :: later) =
      run ⟨.value, .list :: frames⟩ (first :: later) := by
  cases first with
  | openList => rfl
  | openRecord => rfl
  | text read blocked => rfl
  | leaf read blocked => rfl
  | _ => cases h

mutual

/-- The tokens of a tree are passed over as one value. -/
theorem run_tokens : (t : Tree) → (frames : List Frame) → (rest : List Token) →
    run ⟨.value, frames⟩ (t.tokens ++ rest) = resume frames rest
  | .leaf _, _, rest | .text _, _, rest => run_of_step rfl rest
  | .list items, frames, rest => run_itemTokens items frames rest
  | .record members, frames, rest => run_memberTokens members frames rest

/-- The items of a list are passed over with the bracket behind them. -/
theorem run_itemTokens : (items : List Tree) → (frames : List Frame) → (rest : List Token) →
    run ⟨.firstOrEnd, .list :: frames⟩ (Tree.itemTokens items ++ rest) = resume frames rest
  | [], _, rest => run_of_step rfl rest
  | item :: later, frames, rest => by
    rw [Tree.itemTokens, List.append_assoc]
    have hitem := run_tokens item (.list :: frames) (Tree.laterItemTokens later ++ rest)
    obtain ⟨first, others, htokens, hfirst⟩ :=
      item.exists_head (Tree.laterItemTokens later ++ rest)
    rw [htokens] at hitem ⊢
    rw [run_first_item hfirst, hitem]
    exact run_laterItemTokens later frames rest

/-- So are the items behind an item. -/
theorem run_laterItemTokens : (items : List Tree) → (frames : List Frame) → (rest : List Token) →
    run ⟨.commaOrEnd, .list :: frames⟩ (Tree.laterItemTokens items ++ rest) = resume frames rest
  | [], _, rest => run_of_step rfl rest
  | item :: later, frames, rest => by
    rw [Tree.laterItemTokens, List.cons_append, List.append_assoc]
    have hitem := run_tokens item (.list :: frames) (Tree.laterItemTokens later ++ rest)
    show run ⟨.value, .list :: frames⟩ _ = _
    rw [hitem]
    exact run_laterItemTokens later frames rest

/-- The members of a record are passed over with the bracket behind them. -/
theorem run_memberTokens : (members : List (Except Malformed String × Tree)) →
    (frames : List Frame) → (rest : List Token) →
    run ⟨.firstOrEnd, .record :: frames⟩ (Tree.memberTokens members ++ rest) = resume frames rest
  | [], _, rest => run_of_step rfl rest
  | (name, value) :: later, frames, rest => by
    rw [Tree.memberTokens, List.cons_append, List.cons_append, List.append_assoc]
    have hvalue := run_tokens value (.record :: frames) (Tree.laterMemberTokens later ++ rest)
    show run ⟨.value, .record :: frames⟩ _ = _
    rw [hvalue]
    exact run_laterMemberTokens later frames rest

/-- So are the members behind a member. -/
theorem run_laterMemberTokens : (members : List (Except Malformed String × Tree)) →
    (frames : List Frame) → (rest : List Token) →
    run ⟨.commaOrEnd, .record :: frames⟩ (Tree.laterMemberTokens members ++ rest) =
      resume frames rest
  | [], _, rest => run_of_step rfl rest
  | (name, value) :: later, frames, rest => by
    rw [Tree.laterMemberTokens, List.cons_append, List.cons_append, List.cons_append,
      List.append_assoc]
    have hvalue := run_tokens value (.record :: frames) (Tree.laterMemberTokens later ++ rest)
    show run ⟨.value, .record :: frames⟩ _ = _
    rw [hvalue]
    exact run_laterMemberTokens later frames rest

end

/-- The tokens of a tree are passed over. -/
theorem run_start_tokens (t : Tree) (rest : List Token) : start.run (t.tokens ++ rest) = .ok rest :=
  run_tokens t [] rest

/-- Fewer than `n` tokens that are passed over as a value begin with those of a tree. -/
def BeginWithTree (n : Nat) : Prop :=
  ∀ {ts : List Token}, ts.length < n → ∀ {frames : List Frame} {rest : List Token},
    run ⟨.value, frames⟩ ts = .ok rest → ∃ (t : Tree) (later : List Token), ts = t.tokens ++ later

/-- Items that are passed over have the tokens of trees. -/
theorem exists_items_of_run {n : Nat} (ih : BeginWithTree n) {ts : List Token}
    (hts : ts.length < n) {frames : List Frame} {rest : List Token}
    (h : run ⟨.value, .list :: frames⟩ ts = .ok rest) :
    ∃ item items later, ts = Tree.itemTokens (item :: items) ++ later := by
  -- on the number of tokens: what follows an item is shorter
  induction hlength : ts.length using Nat.strongRecOn generalizing ts with
  | ind length shorter =>
    obtain ⟨item, others, rfl⟩ := ih hts h
    rw [run_tokens] at h
    rw [List.length_append] at hts hlength
    cases others with
    | nil => cases h
    | cons first others =>
      rw [List.length_cons] at hts hlength
      cases first with
      | closeList => exact ⟨item, [], others, by simp [Tree.itemTokens, Tree.laterItemTokens]⟩
      | comma =>
        have hlater : run ⟨.value, .list :: frames⟩ others = .ok rest := h
        obtain ⟨second, items, later, rfl⟩ :=
          shorter others.length (by omega) (by omega) hlater rfl
        exact ⟨item, second :: items, later, by simp [Tree.itemTokens, Tree.laterItemTokens]⟩
      | _ => cases h

/-- The name of a member, and a colon. -/
theorem exists_name_of_run {frames : List Frame} {ts rest : List Token}
    (h : run ⟨.name, frames⟩ ts = .ok rest) :
    ∃ name later, ts = .text name none :: .colon :: later ∧
      run ⟨.value, frames⟩ later = .ok rest := by
  cases ts with
  | nil => cases h
  | cons first ts =>
    cases first with
    | text name blocked =>
      cases blocked with
      | some fault => cases h
      | none =>
        have hcolon : run ⟨.colon, frames⟩ ts = .ok rest := h
        cases ts with
        | nil => cases hcolon
        | cons second later =>
          cases second with
          | colon => exact ⟨name, later, rfl, hcolon⟩
          | _ => cases hcolon
    | _ => cases h

/-- Members that are passed over have the tokens of names and trees. -/
theorem exists_members_of_run {n : Nat} (ih : BeginWithTree n) {ts : List Token}
    (hts : ts.length < n) {frames : List Frame} {rest : List Token}
    (h : run ⟨.name, .record :: frames⟩ ts = .ok rest) :
    ∃ member members later, ts = Tree.memberTokens (member :: members) ++ later := by
  -- on the tokens that are left: behind the first member there are fewer
  induction hlength : ts.length using Nat.strongRecOn generalizing ts with
  | ind length shorter =>
    obtain ⟨name, afterName, rfl, hvalue⟩ := exists_name_of_run h
    rw [List.length_cons, List.length_cons] at hts hlength
    obtain ⟨value, others, rfl⟩ := ih (by omega) hvalue
    rw [run_tokens] at hvalue
    rw [List.length_append] at hts hlength
    cases others with
    | nil => cases hvalue
    | cons first others =>
      rw [List.length_cons] at hts hlength
      cases first with
      | closeRecord =>
        exact ⟨(name, value), [], others, by simp [Tree.memberTokens, Tree.laterMemberTokens]⟩
      | comma =>
        have hlater : run ⟨.name, .record :: frames⟩ others = .ok rest := hvalue
        obtain ⟨second, members, later, rfl⟩ :=
          shorter others.length (by omega) (by omega) hlater rfl
        exact ⟨(name, value), second :: members, later,
          by simp [Tree.memberTokens, Tree.laterMemberTokens]⟩
      | _ => cases hvalue

/-- A list that is passed over has the tokens of a tree. -/
theorem exists_list_of_run {n : Nat} (ih : BeginWithTree n) {ts : List Token}
    (hts : ts.length < n) {frames : List Frame} {rest : List Token}
    (h : run ⟨.firstOrEnd, .list :: frames⟩ ts = .ok rest) :
    ∃ items later, ts = Tree.itemTokens items ++ later := by
  cases ts with
  | nil => cases h
  | cons first later =>
    cases hfirst : first.beginsValue with
    | true =>
      rw [run_first_item hfirst] at h
      obtain ⟨item, items, others, hothers⟩ := exists_items_of_run ih hts h
      exact ⟨item :: items, others, hothers⟩
    | false =>
      cases first with
      | closeList => exact ⟨[], later, rfl⟩
      | _ => first | cases h | cases hfirst

/-- A record that is passed over has the tokens of a tree. -/
theorem exists_record_of_run {n : Nat} (ih : BeginWithTree n) {ts : List Token}
    (hts : ts.length < n) {frames : List Frame} {rest : List Token}
    (h : run ⟨.firstOrEnd, .record :: frames⟩ ts = .ok rest) :
    ∃ members later, ts = Tree.memberTokens members ++ later := by
  cases ts with
  | nil => cases h
  | cons first later =>
    cases first with
    | closeRecord => exact ⟨[], later, rfl⟩
    | text name blocked =>
      have hname : run ⟨.name, .record :: frames⟩ (.text name blocked :: later) = .ok rest := h
      obtain ⟨member, members, others, hothers⟩ := exists_members_of_run ih hts hname
      exact ⟨member :: members, others, hothers⟩
    | _ => cases h

/-- What is passed over as a value are the tokens of a tree. -/
theorem beginWithTree (n : Nat) : BeginWithTree n := by
  induction n with
  | zero => exact fun hts => absurd hts (Nat.not_lt_zero _)
  | succ n ih =>
    intro ts hts frames rest h
    cases ts with
    | nil => cases h
    | cons first ts =>
      have hshorter : ts.length < n := Nat.lt_of_succ_lt_succ hts
      -- inside a list or a record fewer tokens are left
      cases first with
      | leaf read blocked =>
        cases blocked with
        | some fault => cases h
        | none => exact ⟨.leaf read, ts, rfl⟩
      | text read blocked =>
        cases blocked with
        | some fault => cases h
        | none => exact ⟨.text read, ts, rfl⟩
      | openList =>
        have hitems : run ⟨.firstOrEnd, .list :: frames⟩ ts = .ok rest := h
        obtain ⟨items, later, rfl⟩ := exists_list_of_run ih hshorter hitems
        exact ⟨.list items, later, rfl⟩
      | openRecord =>
        have hmembers : run ⟨.firstOrEnd, .record :: frames⟩ ts = .ok rest := h
        obtain ⟨members, later, rfl⟩ := exists_record_of_run ih hshorter hmembers
        exact ⟨.record members, later, rfl⟩
      | _ => cases h

/-- What is passed over of a text as one value has the tokens of a tree. -/
theorem exists_tree_of_run {ts rest : List Token} (h : start.run ts = .ok rest) :
    ∃ t : Tree, ts = t.tokens ++ rest := by
  obtain ⟨t, later, rfl⟩ := beginWithTree (ts.length + 1) (Nat.lt_succ_self _) h
  rw [run_start_tokens, Except.ok.injEq] at h
  exact ⟨t, by rw [h]⟩

end Passing

/-! ## Drafting trees -/

theorem draftItems_of_beginsValue {first : Token} (h : first.beginsValue = true) (depth : Nat)
    (later : List Token) : draftItems depth (first :: later) = draftItem depth (first :: later) := by
  cases first with
  | closeList => cases h
  | _ => simp [draftItems]

/-- What is drafted of the items behind an item. -/
def laterItems (depth : Nat) : List Token → Items Number
  | [] => .done .endOfText
  | .closeList :: _ => .done .closed
  | [.comma] => .done .endAfterComma
  | .comma :: .closeList :: _ => .done .trailingComma
  | .comma :: rest => draftItem depth rest
  | _ => .done .stray

/-- An item that can be passed over is drafted, and then those behind it. -/
theorem draftItem_of_run {depth : Nat} {ts rest : List Token}
    (h : Passing.start.run ts = .ok rest) :
    draftItem depth ts = .next (draftValue depth ts) (laterItems depth rest) := by
  rw [draftItem]
  split <;> grind [laterItems]

/-- Behind an item that cannot be passed over nothing is drafted. -/
theorem draftItem_of_error {depth : Nat} {ts : List Token} {fault : Malformed}
    (h : Passing.start.run ts = .error fault) :
    draftItem depth ts = .next (draftValue depth ts) (.done .stray) := by
  rw [draftItem]
  split <;> simp_all

theorem laterItems_comma {first : Token} (h : first ≠ .closeList) (depth : Nat)
    (later : List Token) :
    laterItems depth (.comma :: first :: later) = draftItem depth (first :: later) := by
  simp [laterItems, h]

/-- What is drafted of the members behind a member. -/
def laterMembers (depth : Nat) : List Token → Members Number
  | [] => .done (some (.malformed .endOfRecord))
  | .closeRecord :: _ => .done none
  | [.comma] => .done (some (.malformed .endOfValue))
  | .comma :: .closeRecord :: _ => .done (some (.malformed .trailingComma))
  | .comma :: rest => draftMember depth rest
  | _ => .done (some (.malformed .expectedRecordCommaOrEnd))

/-- A member whose value can be passed over is drafted, and then those behind it. -/
theorem draftMember_of_run {depth : Nat} {name : String} {blocked : Option Malformed}
    {ts rest : List Token} (h : Passing.start.run ts = .ok rest) :
    draftMember depth (.text (.ok name) blocked :: .colon :: ts) =
      .next name (draftValue depth ts) none (laterMembers depth rest) := by
  rw [draftMember]
  split <;> grind [laterMembers, Json.blocked]

theorem laterMembers_comma {first : Token} (h : first ≠ .closeRecord) (depth : Nat)
    (later : List Token) :
    laterMembers depth (.comma :: first :: later) = draftMember depth (first :: later) := by
  simp [laterMembers, h]

theorem draftMembers_of_text (depth : Nat) (read : Except Malformed String)
    (blocked : Option Malformed) (later : List Token) :
    draftMembers depth (.text read blocked :: later) =
      draftMember depth (.text read blocked :: later) := by
  simp [draftMembers]

mutual

/-- What is drafted of the tokens of a tree is what is drafted of the tree. -/
theorem draftValue_tokens : (t : Tree) → (depth : Nat) → (rest : List Token) →
    draftValue depth (t.tokens ++ rest) = t.draft depth
  | .leaf (.ok .null), _, _ | .leaf (.ok (.bool _)), _, _ | .leaf (.ok (.number _)), _, _
  | .text (.ok _), _, _ | .leaf (.error _), _, _ | .text (.error _), _, _ => by
    rw [Tree.tokens, List.singleton_append, draftValue, Tree.draft]
  | .list items, 0, rest => by
    rw [Tree.tokens, List.cons_append, draftValue, Tree.draft]
  | .list [], depth + 1, rest => by
    rw [Tree.tokens, List.cons_append, draftValue, Tree.draft, Tree.itemTokens,
      List.singleton_append, draftItems, Tree.draftItems]
  | .list (item :: items), depth + 1, rest => by
    obtain ⟨first, later, htokens, hfirst⟩ :=
      item.exists_head (Tree.laterItemTokens items ++ rest)
    -- a first item keeps the list from being read as an empty one
    have hitems := draftItem_tokens (item :: items) (List.cons_ne_nil _ _) depth rest
    rw [Tree.itemTokens, List.append_assoc, htokens] at hitems
    rw [Tree.tokens, List.cons_append, draftValue, Tree.draft, Tree.itemTokens, List.append_assoc,
      htokens, draftItems_of_beginsValue hfirst, hitems]
  | .record members, 0, rest => by
    rw [Tree.tokens, List.cons_append, draftValue, Tree.draft]
  | .record [], depth + 1, rest => by
    rw [Tree.tokens, List.cons_append, draftValue, Tree.draft, Tree.memberTokens,
      List.singleton_append, draftMembers, Tree.draftMembers]
  | .record (member :: members), depth + 1, rest => by
    have hmembers := draftMember_tokens (member :: members) (List.cons_ne_nil _ _) depth rest
    rw [Tree.tokens, List.cons_append, draftValue, Tree.draft, ← hmembers, Tree.memberTokens,
      List.cons_append, draftMembers_of_text]

/-- What is drafted of the tokens of items is what is drafted of their trees. -/
theorem draftItem_tokens : (items : List Tree) → items ≠ [] → (depth : Nat) →
    (rest : List Token) →
    draftItem depth (Tree.itemTokens items ++ rest) = Tree.draftItems depth items
  | [item], _, depth, rest => by
    have hrun := Passing.run_start_tokens item (.closeList :: rest)
    rw [Tree.itemTokens, Tree.laterItemTokens, List.append_assoc, List.singleton_append,
      draftItem_of_run hrun, draftValue_tokens]
    rfl
  | item :: second :: items, _, depth, rest => by
    obtain ⟨first, later, htokens, hfirst⟩ :=
      second.exists_head (Tree.laterItemTokens items ++ rest)
    have hitems := draftItem_tokens (second :: items) (List.cons_ne_nil _ _) depth rest
    have hrun := Passing.run_start_tokens item (.comma :: first :: later)
    have hne : first ≠ .closeList := by
      rintro rfl
      cases hfirst
    rw [Tree.itemTokens, List.append_assoc, htokens] at hitems
    rw [Tree.itemTokens, Tree.laterItemTokens, List.append_assoc, List.cons_append,
      List.append_assoc, htokens, draftItem_of_run hrun, laterItems_comma hne, draftValue_tokens,
      hitems]
    rfl

/-- What is drafted of the tokens of members is what is drafted of their trees. -/
theorem draftMember_tokens : (members : List (Except Malformed String × Tree)) → members ≠ [] →
    (depth : Nat) → (rest : List Token) →
    draftMember depth (Tree.memberTokens members ++ rest) = Tree.draftMembers depth members
  | (.error fault, _) :: _, _, depth, rest => by
    rw [Tree.memberTokens, List.cons_append, draftMember, Tree.draftMembers]
  | [(.ok name, value)], _, depth, rest => by
    have hrun := Passing.run_start_tokens value (.closeRecord :: rest)
    rw [Tree.memberTokens, Tree.laterMemberTokens, List.cons_append, List.cons_append,
      List.append_assoc, List.singleton_append, draftMember_of_run hrun, draftValue_tokens]
    rfl
  | (.ok name, value) :: (second, other) :: members, _, depth, rest => by
    have hmembers :=
      draftMember_tokens ((second, other) :: members) (List.cons_ne_nil _ _) depth rest
    have hrun := Passing.run_start_tokens value
      (.comma :: (Tree.memberTokens ((second, other) :: members) ++ rest))
    have hne : Token.text second none ≠ .closeRecord := nofun
    rw [Tree.memberTokens, List.cons_append] at hmembers hrun
    rw [Tree.memberTokens, Tree.laterMemberTokens, List.cons_append, List.cons_append,
      List.append_assoc, List.cons_append, List.cons_append,
      draftMember_of_run hrun, laterMembers_comma hne, draftValue_tokens, hmembers]
    rfl

end

/-! ## The tokens of a text -/

/-- An integer that a 64-bit word holds, signed or not. -/
def IsWord (i : Int) : Prop := Int64.minValue.toInt ≤ i ∧ i < UInt64.size

/-- A token that can be read can be passed over, and an integer fits a word. -/
def Token.Coherent : Token → Prop
  | text (.ok _) (some _) | leaf (.ok _) (some _) => False
  | leaf (.ok (.number (.integer i))) none => IsWord i
  | _ => True

/-- A text that breaks off cannot be read. -/
theorem Content.coherent_stop (content : Content) (fault : Malformed) :
    (content.stop fault).Coherent := by
  cases content <;> trivial

/-- A literal that is read as an integer fits a word. -/
theorem Numeral.isWord_of_integer? {n : Numeral} {i : Int} (h : n.integer? = some i) : IsWord i := by
  have hsize : (Int64.minValue.toInt.natAbs : Int) = -Int64.minValue.toInt := rfl
  have hleast : Int64.minValue.toInt ≤ 0 := by decide
  have hlt : n.significand.toNat < UInt64.size := n.significand.toNat_lt
  unfold integer? at h
  unfold IsWord
  split at h
  all_goals first | cases h | dsimp only at h
  all_goals
    split at h
    · obtain rfl := Option.some.inj h
      omega
    · obtain ⟨hbounds, hi⟩ := Option.ite_none_right_eq_some.1 h
      have hi := Option.some.inj hi
      omega

/-- The token of a number is coherent. -/
theorem Numeral.coherent_token (n : Numeral) : n.token.Coherent := by
  unfold token number?
  cases hinteger : n.integer? with
  | some i => exact n.isWord_of_integer? hinteger
  | none => cases n.double? <;> trivial

theorem Numeral.coherent_last (n : Numeral) : n.last.Coherent := by
  unfold last
  split
  · exact n.coherent_token
  · trivial

theorem Token.coherent_text_none (read : Except Malformed String) : (text read none).Coherent := by
  cases read <;> trivial

/-- A word that is being read stands for a coherent token. -/
def Mode.Coherent : Mode → Prop
  | word _ leaf => (Token.leaf (.ok leaf) none).Coherent
  | _ => True

namespace Lexer

/-- All tokens found so far are coherent, and so is the one that is being read. -/
structure Coherent (l : Lexer) : Prop where
  found : ∀ t ∈ l.found, t.Coherent
  mode : Mode.Coherent l.mode

variable {l : Lexer}

theorem coherent_start : start.Coherent := ⟨fun _ ht => absurd ht List.not_mem_nil, trivial⟩

/-- A coherent token may be added to those that were found. -/
theorem coherent_emit {t : Token} (h : l.Coherent) (ht : t.Coherent) : (l.emit t).Coherent :=
  ⟨List.forall_mem_cons.2 ⟨ht, h.found⟩, trivial⟩

theorem coherent_halt {t : Token} (h : l.Coherent) (ht : t.Coherent) : (l.halt t).Coherent :=
  ⟨List.forall_mem_cons.2 ⟨ht, h.found⟩, trivial⟩

theorem coherent_ite {c : Prop} [Decidable c] {a b : Lexer} (ha : a.Coherent) (hb : b.Coherent) :
    (if c then a else b).Coherent := by
  by_cases hc : c
  · rwa [if_pos hc]
  · rwa [if_neg hc]

theorem coherent_begin (h : l.Coherent) (c : Char) : (l.begin c).Coherent := by
  unfold begin
  repeat' apply coherent_ite
  all_goals first | exact coherent_emit h trivial | exact ⟨h.found, trivial⟩

theorem coherent_breakUnit (h : l.Coherent) (content : Content) (bytes : Nat) (c : Char) :
    (l.breakUnit content bytes c).Coherent :=
  coherent_ite (coherent_halt h (content.coherent_stop _)) ⟨h.found, trivial⟩

/-- A character leaves the tokens coherent. -/
theorem coherent_step (h : l.Coherent) (c : Char) : (l.step c).Coherent := by
  unfold step
  split
  next => exact coherent_begin h c
  next content _ =>
    have hend : (l.emit (.text content.finish none)).Coherent :=
      coherent_emit h (Token.coherent_text_none _)
    have hstop := coherent_halt h (content.coherent_stop .controlCharacter)
    exact coherent_ite hend <| coherent_ite ⟨h.found, trivial⟩ <|
      coherent_ite hstop ⟨h.found, trivial⟩
  next content _ =>
    refine coherent_ite ⟨h.found, trivial⟩ ?_
    split
    · exact ⟨h.found, trivial⟩
    · exact coherent_halt h (content.coherent_stop _)
  next content left value _ =>
    split
    · exact coherent_ite ⟨h.found, trivial⟩ ⟨h.found, trivial⟩
    · exact coherent_breakUnit h content left c
  next content bytes _ => exact coherent_breakUnit h content bytes c
  next n _ =>
    split
    · exact ⟨h.found, trivial⟩
    · exact coherent_begin (coherent_emit h n.coherent_token) c
    · exact coherent_halt h trivial
  next left leaf hmode =>
    have hleaf : Mode.Coherent (.word left leaf) := hmode ▸ h.mode
    have hword : (l.emit (.leaf (.ok leaf) none)).Coherent := coherent_emit h hleaf
    split
    · exact coherent_begin hword c
    · exact coherent_ite (coherent_halt h trivial) (coherent_ite hword ⟨h.found, hleaf⟩)
  next => exact h

/-- So does a byte that belongs to no character. -/
theorem coherent_stepSymbol (h : l.Coherent) (c : Option Char) : (l.stepSymbol c).Coherent := by
  cases c with
  | some c => exact coherent_step h c
  | none =>
    show l.stepBroken.Coherent
    unfold stepBroken
    split
    · exact ⟨h.found, trivial⟩
    · exact coherent_step h _

/-- The tokens are coherent in the end. -/
theorem coherent_finish (h : l.Coherent) : ∀ t ∈ l.finish, t.Coherent := by
  have hlast : ∀ last : Token, last.Coherent → ∀ t ∈ (last :: l.found).reverse, t.Coherent := by
    intro last hlast t ht
    exact List.forall_mem_cons.2 ⟨hlast, h.found⟩ t (List.mem_reverse.1 ht)
  unfold finish
  split
  · exact fun t ht => h.found t (List.mem_reverse.1 ht)
  · exact fun t ht => h.found t (List.mem_reverse.1 ht)
  · exact hlast _ (Content.coherent_stop _ _)
  · exact hlast _ (Content.coherent_stop _ _)
  · exact hlast _ (Content.coherent_stop _ _)
  · exact hlast _ (Content.coherent_stop _ _)
  · exact hlast _ (Numeral.coherent_last _)
  · exact hlast _ trivial

end Lexer

/-- The tokens of any bytes are coherent. -/
theorem coherent_of_mem_tokensOfBytes {bytes : List UInt8} :
    ∀ t ∈ tokensOfBytes bytes, t.Coherent := by
  have hrun : ∀ (cs : List (Option Char)) (l : Lexer), l.Coherent →
      (cs.foldl Lexer.stepSymbol l).Coherent := by
    intro cs
    induction cs with
    | nil => exact fun _ h => h
    | cons c cs ih => exact fun l h => ih _ (Lexer.coherent_stepSymbol h c)
  exact Lexer.coherent_finish (hrun _ Lexer.start Lexer.coherent_start)

/-- The bytes of a text have the tokens of the text. -/
theorem tokensOfBytes_utf8 (s : String) : tokensOfBytes (Text.utf8 s.toList) = tokens s := by
  rw [tokensOfBytes, Text.symbols_utf8, List.foldl_map]
  rfl

/-- The tokens of a text are coherent. -/
theorem coherent_of_mem_tokens {s : String} : ∀ t ∈ tokens s, t.Coherent := by
  rw [← tokensOfBytes_utf8]
  exact coherent_of_mem_tokensOfBytes

/-! ## What is read -/

/-- What is read of the tokens of a tree. -/
theorem readTokens_tokens (t : Tree) : readTokens t.tokens = ⟨t.draft depthLimit, none⟩ := by
  have hdraft := draftValue_tokens t depthLimit []
  have hrun := Passing.run_start_tokens t []
  rw [List.append_nil] at hdraft hrun
  unfold readTokens
  simp only [hdraft, hrun]

end FabricGauges.Json
