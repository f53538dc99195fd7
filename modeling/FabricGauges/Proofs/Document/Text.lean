import FabricGauges.Proofs.Document.Nesting
import FabricGauges.Proofs.Json.Rereading

/-!
# Documents that are written as text and read again

What is read where a document has been written is the document with its doubles read again, and
nothing at all if it is nested too deep.
-/

namespace FabricGauges

open Json (Tree treesOfItems treesOfMembers depthItems depthMembers rereadItems? rereadMembers?)
open Draft (Items Members)

namespace Shape

variable {s : Shape}

/-- Different values of a regular shape are written differently. -/
theorem encode_inj (hs : s.isRegular = true) {w v : s.Val} : s.encode w = s.encode v ↔ w = v := by
  refine ⟨fun h => ?_, congrArg _⟩
  have hw := decode_encode hs w
  rw [h, decode_encode hs v] at hw
  exact (Except.ok.inj hw).symm

/-- A value that is neither nested nor holds a double is read as it was written. -/
theorem decode_tree_of_scalar (hs : s.isRegular = true) {depth : Nat} {w v : s.Val}
    (hdraft : (s.encode w).tree.draft depth = (s.encode w).asDraft) (hdepth : (s.encode w).depth = 0)
    (hsame : (s.encode w).reread? = some (s.encode w)) :
    s.decode ((s.encode w).tree.draft depth) = .ok v ↔
      (s.encode w).depth ≤ depth ∧ (s.encode w).reread? = some (s.encode v) := by
  rw [hdraft, decode_encode hs w, hdepth, hsame, Except.ok.injEq, Option.some.injEq, encode_inj hs]
  exact (and_iff_right (Nat.zero_le _)).symm

theorem decode_tree_double (depth : Nat) (x y : Double) :
    double.decode ((Json.ofDouble x).tree.draft depth) = .ok y ↔
      (Json.ofDouble x).depth ≤ depth ∧ (Json.ofDouble x).reread? = some (Json.ofDouble y) := by
  rw [Json.ofDouble, Json.tree, ← Json.ofDouble, Json.reread?_ofDouble]
  refine Iff.trans ?_ (and_iff_right (Nat.zero_le _)).symm
  cases x.reread? with
  | none => constructor <;> intro h <;> cases h
  | some z =>
    show Except.ok z = (.ok y : Except Fault Double) ↔ _
    rw [Except.ok.injEq, Option.some.injEq]

theorem decode_tree_anything (depth : Nat) (w v : Json.Sorted) :
    anything.decode (w.json.tree.draft depth) = .ok v ↔
      w.json.depth ≤ depth ∧ w.json.reread? = some v.json := by
  refine decode_anything_eq_ok.trans ?_
  simp only [Json.free_draft_tree]
  constructor
  · rintro ⟨j, ⟨hdepth, hread⟩, rfl⟩
    have hsorted := Json.isSorted_of_reread? hread w.isSorted
    exact ⟨hdepth, hread.trans (congrArg some (Json.canonical_of_isSorted hsorted).symm)⟩
  · rintro ⟨hdepth, hread⟩
    exact ⟨v.json, ⟨hdepth, hread⟩, v.sorted_json⟩

/-- What is said of a shape holds of an optional value of the shape. -/
theorem decode_tree_optional {depth : Nat} (hs : s.isNullable = false)
    (h : ∀ w v, s.decode ((s.encode w).tree.draft depth) = .ok v ↔
      (s.encode w).depth ≤ depth ∧ (s.encode w).reread? = some (s.encode v)) (w v : Option s.Val) :
    (optional s).decode (((optional s).encode w).tree.draft depth) = .ok v ↔
      ((optional s).encode w).depth ≤ depth ∧
        ((optional s).encode w).reread? = some ((optional s).encode v) := by
  cases w with
  | none =>
    -- nothing is written as null, which only nothing is read of
    show Except.ok none = (.ok v : Except Fault (Option s.Val)) ↔
      0 ≤ depth ∧ some Json.null = some ((optional s).encode v)
    cases v with
    | none => exact iff_of_true rfl ⟨Nat.zero_le _, rfl⟩
    | some v => exact iff_of_false nofun fun h => encode_ne_null hs v (Option.some.inj h.2).symm
  | some w =>
    have hdraft := Json.draft_tree_ne_null (encode_ne_null hs w) depth
    refine (decode_optional_eq_ok hdraft).trans ?_
    show _ ↔ (s.encode w).depth ≤ depth ∧ (s.encode w).reread? = some ((optional s).encode v)
    cases v with
    | none =>
      refine iff_of_false (fun ⟨_, _, hv⟩ => nomatch hv) fun h => ?_
      exact encode_ne_null hs w (Json.reread?_eq_null_iff.1 h.2)
    | some v =>
      refine Iff.trans ?_ (h w v)
      exact ⟨fun ⟨u, hu, hv⟩ => Option.some.inj hv ▸ hu, fun hv => ⟨v, hv, rfl⟩⟩

end Shape

/-- Items that are read again one by one. -/
theorem decode_draftItems_iff {α : Type} {encode : α → Json}
    {decode : Draft Number → Except Fault α} {depth : Nat}
    (h : ∀ w v, decode ((encode w).tree.draft depth) = .ok v ↔
      (encode w).depth ≤ depth ∧ (encode w).reread? = some (encode v)) (ws vs : List α) :
    (Tree.draftItems depth (treesOfItems (ws.map encode))).decode decode = .ok vs ↔
      depthItems (ws.map encode) ≤ depth ∧ rereadItems? (ws.map encode) = some (vs.map encode) := by
  -- both lists at once, item by item
  induction ws generalizing vs with
  | nil =>
    cases vs <;> simp [treesOfItems, Tree.draftItems, Items.decode, ListEnd.fault?, depthItems,
      rereadItems?]
  | cons w ws ih =>
    rw [List.map_cons, treesOfItems, Tree.draftItems, Items.decode, depthItems, Nat.max_le,
      Json.rereadItems?_cons]
    simp only [bind_eq_ok, h, ih, pure, Except.pure, Except.ok.injEq]
    constructor
    · rintro ⟨v, ⟨hw, hv⟩, vs, ⟨hws, hvs⟩, rfl⟩
      exact ⟨⟨hw, hws⟩, _, hv, _, hvs, rfl⟩
    · rintro ⟨⟨hw, hws⟩, j, hv, js, hvs, heq⟩
      cases vs with
      | nil => cases heq
      | cons v vs =>
        obtain ⟨rfl, rfl⟩ := List.cons.inj heq
        exact ⟨v, ⟨hw, hv⟩, vs, ⟨hws, hvs⟩, rfl⟩

theorem draftMembers_trees (depth : Nat) (members : List (String × Json)) :
    Tree.draftMembers depth (treesOfMembers members) =
      .ofList (Json.drafts (·.tree.draft depth) members) := by
  induction members with
  | nil => rfl
  | cons m members ih =>
    rw [treesOfMembers, Tree.draftMembers, ih]
    rfl

namespace Fields

variable {field : Field} {s : Shape} {rest : Fields}

theorem depthMembers_encode_cons (field : Field) {n : Nat} (w : s.Val) (ws : rest.Val) :
    depthMembers ((cons field s rest).encode (w, ws)) ≤ n ↔
      (s.encode w).depth ≤ n ∧ depthMembers (rest.encode ws) ≤ n := by
  rw [encode_cons]
  cases hout : leavesOut field s w with
  | true =>
    rw [if_pos rfl, encode_eq_null_of_leavesOut hout]
    exact (and_iff_right (Nat.zero_le _)).symm
  | false => exact Nat.max_le

theorem leavesOut_iff {v : s.Val} :
    leavesOut field s v = true ↔ field.omitted = true ∧ s.encode v = .null := by
  unfold leavesOut
  split
  · next homitted hnull => exact iff_of_true rfl ⟨homitted, hnull⟩
  · next hother => exact iff_of_false Bool.false_ne_true fun h => hother h.1 h.2

/-- A member is left out again. -/
theorem leavesOut_of_reread? {w v : s.Val} (h : (s.encode w).reread? = some (s.encode v)) :
    leavesOut field s w = leavesOut field s v := by
  rw [Bool.eq_iff_iff, leavesOut_iff, leavesOut_iff, ← Json.reread?_eq_null_iff, h,
    Option.some.injEq]

/-- A name that is not among those of the members does not come up when they are read again. -/
theorem rereadMembers?_ne_cons (hname : field.name ∉ rest.names) (vs : rest.Val) (j : Json)
    (members : List (String × Json)) :
    rereadMembers? (rest.encode vs) ≠ some ((field.name, j) :: members) ∧
      rereadMembers? ((field.name, j) :: members) ≠ some (rest.encode vs) := by
  have hnew : field.name ∉ (rest.encode vs).map (·.1) := by
    intro hmem
    obtain ⟨m, hm, hsame⟩ := List.mem_map.1 hmem
    rw [← hsame] at hname
    exact hname (mem_names_of_mem_encode hm)
  constructor
  · intro h
    rw [← Json.names_of_rereadMembers? h] at hnew
    exact hnew List.mem_cons_self
  · intro h
    rw [Json.names_of_rereadMembers? h] at hnew
    exact hnew List.mem_cons_self

/-- Members are read again one by one. -/
theorem rereadMembers?_encode_cons (hregular : (cons field s rest).isRegular = true) (w v : s.Val)
    (ws vs : rest.Val) :
    rereadMembers? ((cons field s rest).encode (w, ws)) = some ((cons field s rest).encode (v, vs)) ↔
      (s.encode w).reread? = some (s.encode v) ∧
        rereadMembers? (rest.encode ws) = some (rest.encode vs) := by
  have hname := (isRegular_cons.1 hregular).1 field.name List.mem_cons_self
  rw [encode_cons, encode_cons]
  -- a member is left out both times or neither time, since null is read again as null
  cases hw : leavesOut field s w with
  | false =>
    cases hv : leavesOut field s v with
    | false => simp [Json.rereadMembers?_cons]
    | true =>
      refine iff_of_false (rereadMembers?_ne_cons hname vs _ _).2 fun h => ?_
      rw [leavesOut_of_reread? h.1, hv] at hw
      cases hw
  | true =>
    cases hv : leavesOut field s v with
    | false =>
      refine iff_of_false (rereadMembers?_ne_cons hname ws _ _).1 fun h => ?_
      rw [leavesOut_of_reread? h.1, hv] at hw
      cases hw
    | true =>
      rw [encode_eq_null_of_leavesOut hw, encode_eq_null_of_leavesOut hv]
      exact (and_iff_right rfl).symm

end Fields

mutual

/-- What is read where a value of a regular shape has been written is the value with its doubles
read again, and nothing if it is nested too deep. -/
theorem Shape.decode_tree_encode : {s : Shape} → s.isRegular = true → (depth : Nat) → (w v : s.Val) →
    (s.decode ((s.encode w).tree.draft depth) = .ok v ↔
      (s.encode w).depth ≤ depth ∧ (s.encode w).reread? = some (s.encode v))
  | .text, h, _, _, _ | .bool, h, _, _, _ | .signed64, h, _, _, _ | .unsigned32, h, _, _, _
  | .unsigned64, h, _, _, _ => Shape.decode_tree_of_scalar h rfl rfl rfl
  | .double, _, depth, x, y => Shape.decode_tree_double depth x y
  | .anything, _, depth, w, v => Shape.decode_tree_anything depth w v
  | .optional s, h, depth, w, v => by
    rw [Shape.isRegular, Bool.and_eq_true, Bool.not_eq_true'] at h
    exact Shape.decode_tree_optional h.1 (Shape.decode_tree_encode h.2 depth) w v
  | .list s, h, 0, ws, vs => iff_of_false nofun fun h => Nat.not_succ_le_zero _ h.1
  | .list s, h, depth + 1, ws, vs => by
    -- one level of the nesting is used up by the list, and one by a record
    have hitems := decode_draftItems_iff (Shape.decode_tree_encode (s := s) h depth) ws vs
    have hsame : (Json.list (ws.map s.encode)).reread? = some (.list (vs.map s.encode)) ↔
        rereadItems? (ws.map s.encode) = some (vs.map s.encode) := by
      rw [Json.reread?_list]
      simp
    exact hitems.trans (and_congr Nat.succ_le_succ_iff.symm hsame.symm)
  | .record name fields, h, 0, w, v => iff_of_false nofun fun h => Nat.not_succ_le_zero _ h.1
  | .record name fields, h, depth + 1, w, v => by
    have hfields : fields.isRegular = true := h
    have hread : (Shape.record name fields).decode
        ((Json.record (fields.encode w)).tree.draft (depth + 1)) = .ok v ↔
          fields.assemble? (Json.drafts (·.tree.draft depth) (fields.encode w)) = some v := by
      rw [Json.tree, Tree.draft, draftMembers_trees]
      exact Shape.decode_record_eq_ok_iff
    have hsame : (Json.record (fields.encode w)).reread? = some (.record (fields.encode v)) ↔
        rereadMembers? (fields.encode w) = some (fields.encode v) := by
      rw [Json.reread?_record]
      simp
    exact (hread.trans (Fields.assemble?_tree_encode hfields depth w v)).trans
      (and_congr Nat.succ_le_succ_iff.symm hsame.symm)
  | .choice _ _, h, _, _, _ => by cases h

/-- What is assembled of the members of a written record. -/
theorem Fields.assemble?_tree_encode : {fields : Fields} → fields.isRegular = true →
    (depth : Nat) → (w v : fields.Val) →
    (fields.assemble? (Json.drafts (·.tree.draft depth) (fields.encode w)) = some v ↔
      depthMembers (fields.encode w) ≤ depth ∧
        rereadMembers? (fields.encode w) = some (fields.encode v))
  | .nil, _, depth, (), () => iff_of_true rfl ⟨Nat.zero_le _, rfl⟩
  | .cons field s rest, h, depth, (w, ws), (v, vs) => by
    obtain ⟨-, -, hs, hrest⟩ := Fields.isRegular_cons.1 h
    have hdepth := Fields.depthMembers_encode_cons field (n := depth) w ws
    have hsame := Fields.rereadMembers?_encode_cons h w v ws vs
    refine (Json.assemble?_drafts_encode_cons rfl h w ws).trans ?_
    refine Iff.trans ?_ (and_congr hdepth hsame).symm
    exact (and_congr (Shape.decode_tree_encode hs depth w v)
      (Fields.assemble?_tree_encode hrest depth ws vs)).trans and_and_and_comm

end

/-! ## Documents -/

namespace Document

variable {α : Type} [Document α]

/-- The bytes of the text that a document is written as. -/
def toBytes (a : α) : List UInt8 := Text.utf8 (toJson a).render.toList

/-- What is read of the text of a document is the document with its doubles read again, and nothing
if it is nested too deep. -/
theorem ofBytes_toBytes_iff (hregular : (shape α).isRegular = true) {a b : α}
    (ha : (toJson a).IsWritable) : ofBytes α (toBytes a) = .ok b ↔
      (toJson a).depth ≤ Json.depthLimit ∧ (toJson a).reread? = some (toJson b) := by
  rw [toBytes, ofBytes_utf8, ofText_of_tokens (Json.tokens_render ha), ofDraft_eq_ok_iff]
  exact Shape.decode_tree_encode hregular Json.depthLimit (toVal a) (toVal b)

/-- A document comes back as it was if each of its doubles does. -/
theorem ofBytes_toBytes_self_iff (hregular : (shape α).isRegular = true) {a : α}
    (ha : (toJson a).IsWritable) : ofBytes α (toBytes a) = .ok a ↔
      (toJson a).depth ≤ Json.depthLimit ∧ ∀ x ∈ (toJson a).doubles, x.reread? = some x := by
  rw [ofBytes_toBytes_iff hregular ha, Json.reread?_eq_self_iff]

end Document

namespace ManagerDocument

/-- A document that was read of a text is nested no deeper than a text may be or than its shape asks
for. -/
theorem fitsIn_of_ofBytes {k : ManagerDocument} {bytes : List UInt8} {d : k.Value}
    (h : Document.ofBytes k.Value bytes = .ok d) :
    (Document.toJson d).FitsIn (max Json.depthLimit k.shape.depth) := by
  have hcoherent : ∀ token ∈ Json.tokensOfBytes bytes, token.Coherent :=
    Json.coherent_of_mem_tokensOfBytes
  obtain ⟨t, ht⟩ := exists_tree hcoherent h
  rw [Document.ofBytes, Json.readBytes, ht, Document.ofReading_tokens,
    Document.ofDraft_eq_ok_iff] at h
  rw [ht] at hcoherent
  exact Shape.fitsIn_of_decode k.isRegular_shape hcoherent h

/-- Documents and pages of them are not nested deep by themselves. -/
theorem depth_shape_le {k : ManagerDocument} (h : ∀ k', k ≠ page (page k')) :
    k.shape.depth ≤ Json.depthLimit := by
  cases k with
  | page document =>
    cases document with
    | page document => exact absurd rfl (h document)
    | _ => exact Nat.le_of_ble_eq_true rfl
  | _ => exact Nat.le_of_ble_eq_true rfl

/-- No answer is a page of pages. -/
theorem document_ne_page_page (r : Request) (k : ManagerDocument) : r.document ≠ page (page k) := by
  cases r with
  | page listing cursor => cases listing <;> exact nofun
  | _ => exact nofun

/-- What becomes of a document of the manager that is written and read again. Of its value it is
read as it was. Of its text it is read with nothing changed but doubles, each of which is what its
own text is read as, and it is not read if it is nested too deep or one of these texts is too large
for a double. A document that was read of a text itself is not nested too deep, unless it is a page
of pages, which answers nothing. A double that is shown as a decimal of 53 bits with a small
exponent does not change. -/
theorem read_again (k : ManagerDocument) :
    (∀ d : k.Value, Document.ofJson k.Value (Document.toJson d) = .ok d) ∧
    (∀ d : k.Value, (Document.toJson d).IsWritable →
      (∀ d', Document.ofBytes k.Value (Document.toBytes d) = .ok d' ↔
        (Document.toJson d).depth ≤ Json.depthLimit ∧
          (Document.toJson d).reread? = some (Document.toJson d')) ∧
      (Document.ofBytes k.Value (Document.toBytes d) = .ok d ↔
        (Document.toJson d).depth ≤ Json.depthLimit ∧
          ∀ x ∈ (Document.toJson d).doubles, x.reread? = some x)) ∧
    ((∀ k', k ≠ page (page k')) → ∀ bytes (d : k.Value), Document.ofBytes k.Value bytes = .ok d →
      (Document.toJson d).IsWritable ∧
        (Document.ofBytes k.Value (Document.toBytes d) = .ok d ↔
          ∀ x ∈ (Document.toJson d).doubles, x.reread? = some x)) ∧
    (∀ r : Request, (⟨r.Answer, inferInstance⟩ : Σ α : Type, Document α) =
      ⟨r.document.Value, inferInstance⟩ ∧ ∀ k', r.document ≠ page (page k')) ∧
    ∀ x : Double, x.shown.digits ≤ 2 ^ 53 → x.shown.exponent.natAbs ≤ 22 →
      x.reread? = some x := by
  refine ⟨Document.ofJson_toJson k.isRegular_shape, fun d hd => ⟨fun d' => ?_, ?_⟩,
    fun hk bytes d hd => ?_, fun r => ⟨r.answer_eq_document, document_ne_page_page r⟩,
    fun x => x.reread?_of_small⟩
  · exact Document.ofBytes_toBytes_iff k.isRegular_shape hd
  · exact Document.ofBytes_toBytes_self_iff k.isRegular_shape hd
  -- what was read is nested within the limit, or within the depth of its own shape
  · obtain ⟨hwritable, hnested⟩ := fitsIn_of_ofBytes hd
    have hdepth : (Document.toJson d).depth ≤ Json.depthLimit := by
      rwa [Nat.max_eq_left (depth_shape_le hk)] at hnested
    refine ⟨hwritable, ?_⟩
    refine (Document.ofBytes_toBytes_self_iff k.isRegular_shape hwritable).trans ?_
    exact and_iff_right hdepth

/-- The state of a gateway whose members stand under their other names, with a double among what is
taken as it is. -/
theorem gateway_state_read_again :
    let text := "\x7b\"tier0_status\":\x7b\x7d,\"tier0_state\":" ++
      "\x7b\"failure_code\":7,\"details\":[\x7b\"load\":0.25\x7d]\x7d\x7d"
    let load : Double := ⟨false, 2 ^ 52, -54, by decide⟩
    let entry : Json.Sorted :=
      ⟨.record [("load", Json.ofDouble load)], List.forall_mem_nil _, trivial, trivial⟩
    let d : GatewayState := ⟨⟨none, none, some 7, none, [entry]⟩, ⟨none, []⟩⟩
    Document.ofBytes GatewayState (Text.utf8 text.toList) = .ok d ∧
      Document.ofBytes GatewayState (Document.toBytes d) = .ok d := by
  intro text load entry d
  -- the text as a tree, whose tokens are compared instead of the text
  let named (name : String) (value : Tree) : TreeMember := (.ok name, value)
  let number (n : Number) : Tree := .leaf (.ok (.number n))
  let details := named "details" (.list [.record [named "load" (number (.double load))]])
  let state := named "tier0_state" (.record [named "failure_code" (number (.integer 7)), details])
  have htokens : Json.tokens text =
      (Tree.record [named "tier0_status" (.record []), state]).tokens := by decide +kernel
  have hread : Document.ofBytes GatewayState (Text.utf8 text.toList) = .ok d := by
    rw [Document.ofBytes_utf8, Document.ofText_of_tokens htokens]
    rfl
  obtain ⟨-, -, hagain, -, hsmall⟩ := gatewayState.read_again
  refine ⟨hread, (hagain nofun _ d hread).2.2 fun x hx => ?_⟩
  obtain rfl := List.mem_singleton.1 hx
  exact hsmall load (by decide +kernel) (by decide +kernel)

/-- A list in a list, and so on. -/
def nestedList : Nat → Json.Sorted
  | 0 => ⟨.list [], trivial⟩
  | n + 1 => ⟨.list [(nestedList n).json], (nestedList n).isSorted, trivial⟩

theorem isWritable_nestedList : (n : Nat) → (nestedList n).json.IsWritable
  | 0 => trivial
  | n + 1 => ⟨isWritable_nestedList n, trivial⟩

/-- The load of a node that is read as the double below it, and the state of a gateway that is not
read because what is taken in it as it is is nested too deep. -/
theorem written_and_not_read_again :
    let load : Double := ⟨false, 8548952328789784, -46, by decide⟩
    let below : Double := ⟨false, 8548952328789783, -46, by decide⟩
    let node (x : Double) : NodeStatus :=
      ⟨none, some ⟨none, [], [x], none, none, none, none⟩, none⟩
    let deep : GatewayState := ⟨⟨none, none, none, none, [nestedList 124]⟩, ⟨none, []⟩⟩
    Document.ofBytes NodeStatus (Document.toBytes (node load)) = .ok (node below) ∧
      node load ≠ node below ∧
      ∀ d, Document.ofBytes GatewayState (Document.toBytes deep) ≠ .ok d := by
  intro load below node deep
  have hload : load.reread? = some below := by decide +kernel
  -- the whole document, whose only double is the load
  have hnode (x : Double) : Document.toJson (node x) = .record [("mgmt_cluster_status", .null),
      ("system_status", .record [("cpu_cores", .null), ("file_systems", .list []),
        ("load_average", .list [.number (.double x)]), ("mem_cache", .null), ("mem_total", .null),
        ("mem_used", .null), ("uptime", .null)]), ("version", .null)] := rfl
  have hsame : (Document.toJson (node load)).reread? = some (Document.toJson (node below)) := by
    rw [hnode, hnode]
    simp [Json.reread?, rereadMembers?, rereadItems?, hload, Json.ofDouble]
  have hwritable : (Document.toJson (node load)).IsWritable := by
    rw [hnode]
    simp [Json.IsWritable, Json.AreWritableMembers, Json.AreWritableItems]
  have hdeep : (Document.toJson deep).IsWritable :=
    ⟨⟨trivial, trivial, trivial, trivial, ⟨isWritable_nestedList 124, trivial⟩, trivial⟩,
      ⟨trivial, trivial, trivial⟩, trivial⟩
  refine ⟨?_, ?_, fun d hd => ?_⟩
  · exact (Document.ofBytes_toBytes_iff nodeStatus.isRegular_shape hwritable).2
      ⟨by decide +kernel, hsame⟩
  · intro h
    have hsystem := Option.some.inj (congrArg NodeStatus.system h)
    have hload := (List.cons.inj (congrArg SystemUsage.loadAverage hsystem)).1
    revert hload
    decide
  · have hdepth := ((Document.ofBytes_toBytes_iff gatewayState.isRegular_shape hdeep).1 hd).1
    revert hdepth
    decide +kernel

end ManagerDocument

end FabricGauges
