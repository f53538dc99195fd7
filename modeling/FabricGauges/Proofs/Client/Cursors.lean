import FabricGauges.Proofs.Client.Addressing
import FabricGauges.Proofs.Client.Repetition
import FabricGauges.Proofs.Document.Edits
import FabricGauges.Proofs.Listing.Pages
import FabricGauges.Proofs.Url.Query

/-!
# Cursors on their way

A cursor is handed out in the document of a page, goes into the request for the next page and is
read there as one pair of a form. The client adds the pairs of a request behind those that the
configured URL has itself, so the manager reads these, then the fixed pairs of the listing, and the
cursor last; where no cursor goes in, none is read behind the fixed pairs.
-/

namespace FabricGauges

open Text Url

/-- The fixed pairs of a listing. -/
def Listing.fixedPairs (l : Listing) : List (String × String) := (Request.page l none).fixedPairs

theorem Listing.ne_cursor_of_mem_fixedPairs (l : Listing) :
    ∀ pair ∈ l.fixedPairs, pair.1 ≠ "cursor" := by
  match l with
  | .balancers | .gateways .tier0 | .gateways .tier1 => decide

/-- The pairs of a page are the fixed ones of its listing, and then its cursor if there is one. -/
theorem Request.pairs_page (l : Listing) (cursor : Option String) :
    (Request.page l cursor).pairs =
      l.fixedPairs ++ (cursor.map fun text => ("cursor", text)).toList := by
  cases l <;> rfl

namespace Client

/-! ## What a request for a page is read as -/

/-- The pairs that the manager reads before those of a listing: the ones of the configured URL. -/
def ownPairs (client : Client) (l : Listing) : List (String × String) :=
  match Url.ofText (client.baseUrl ++ l.path) with
  | .ok u => Form.readPairs (u.query.getD [])
  | .error _ => []

theorem pairsIn_location {client : Client} {l : Listing} {cursor : Option String} {v : Url}
    (h : client.location (.page l cursor) = .ok v) :
    pairsIn v.target = client.ownPairs l ++ l.fixedPairs ++
      (cursor.map fun text => ("cursor", text)).toList := by
  obtain ⟨u, hu, rfl⟩ := location_eq_ok.1 h
  have hown : client.ownPairs l = Form.readPairs (u.query.getD []) := by
    have hu : Url.ofText (client.baseUrl ++ l.path) = .ok u := hu
    rw [ownPairs, hu]
  rw [pairsIn_addPairs hu, Request.pairs_page, hown, List.append_assoc]

/-- A URL without a question mark has no pairs. -/
theorem ownPairs_eq_nil {url : String} {client : Client} (hbase : client.baseUrl = withoutSlashes url)
    (hmark : '?' ∉ url.toList) (l : Listing) : client.ownPairs l = [] := by
  obtain ⟨n, hn⟩ := exists_slashes url
  have hpath : '?' ∉ l.path.toList := by
    match l with
    | .balancers | .gateways .tier0 | .gateways .tier1 => decide +kernel
  have htext : '?' ∉ (client.baseUrl ++ l.path).toList := by
    rw [String.toList_append, List.mem_append, hbase, not_or]
    refine ⟨fun hmem => hmark ?_, hpath⟩
    rw [hn]
    exact List.mem_append_left _ hmem
  unfold ownPairs
  split
  · next u hu =>
    rw [query_eq_none hu htext]
    rfl
  · rfl

/-- Pages are asked for at one URL, whatever their cursors. -/
theorem exists_location_page {client : Client} {l : Listing} {cursor : Option String} {v : Url}
    (h : client.location (.page l cursor) = .ok v) (other : Option String) :
    ∃ w, client.location (.page l other) = .ok w := by
  obtain ⟨u, hu, -⟩ := location_eq_ok.1 h
  exact ⟨_, location_eq_ok.2 ⟨u, hu, rfl⟩⟩

/-- Everything can be asked for if the URL of the settings does not end in a blank. -/
theorem exists_location {files : Files} {c : Connection} {client : Client}
    (h : make files c = .ok client) (hunblank : endsFaint c.url.toList = false) (r : Request) :
    ∃ v, client.location r = .ok v := by
  obtain ⟨u, -, hurl, hbase⟩ := of_make h
  obtain ⟨B⟩ := exists_base hurl
  obtain ⟨p, hpath, -⟩ := r.exists_path
  obtain ⟨w, hw, -⟩ := Origin.exists_url B.url_eq (B.tail ++ B.blanks ++ ended r.path.toList)
  rw [← B.ofText_eq_url (.inr (B.blanks_eq_nil.2 hunblank)) r.path hpath, ← hbase] at hw
  exact ⟨w.addPairs r.pairs, location_eq_ok.2 ⟨w, hw, rfl⟩⟩

/-! ## Pages that a client fetches -/

/-- A request is answered with a document: the last time that it is sent, it is answered by a
success whose body reads as the document. -/
def AnsweredWith (client : Client) (network : Network) (draw : Nat → Nat) (r : Request)
    (answer : r.Answer) : Prop :=
  ∃ v status body, client.location r = .ok v ∧
    network v ((client.exchange network draw r).sent - 1) = .answered status (some body) ∧
    isSuccess status = true ∧ Document.ofBytes r.Answer body = .ok answer

section

variable {client : Client} {network : Network} {draw : Nat → Nat} {r : Request} {answer : r.Answer}

theorem AnsweredWith.exists_location (h : client.AnsweredWith network draw r answer) :
    ∃ v, client.location r = .ok v := by
  obtain ⟨v, -, -, hv, -⟩ := h
  exact ⟨v, hv⟩

/-- A client has a document only from an answer. -/
theorem answeredWith_of_result (h : (client.exchange network draw r).result = .ok answer) :
    client.AnsweredWith network draw r answer := by
  obtain ⟨k, hk⟩ := client.policy.exists_endsAt (client.reaction network r)
  have hrun := exchange_eq_throughout hk draw
  rw [hrun, Exchange.result_throughout, Nat.zero_add] at h
  obtain ⟨status, body, hlast, hsuccess, hbody⟩ := Reaction.answered_of_outcome h
  have hsent : (client.exchange network draw r).sent - 1 = k := by
    rw [hrun, Exchange.sent_throughout, Nat.add_sub_cancel]
  unfold reaction at hlast
  split at hlast
  · next v hv => exact ⟨v, status, body, hv, hsent ▸ hlast, hsuccess, hbody⟩
  · cases hlast

end

/-- What comes of asking a network for the pages of a listing; it may react to each call in its own
way. -/
def fetchPage (client : Client) (network : Nat → Network) (draw : Nat → Nat → Nat) (l : Listing)
    (i : Nat) (cursor : Option String) : Except ApiError (Page l.Item) :=
  (client.exchange (network i) (draw i) (.page l cursor)).result

/-- Of a request for a page, the manager reads the pairs of the configured URL, none if that has no
question mark, then the fixed ones of the listing, which hold no cursor, and then the cursor if
there is one. So when a client walks a listing over any network, the cursor that is read last for
each further page is the one that the answer with the page before handed out. -/
theorem cursors_arrive_unchanged {files : Files} {c : Connection} {client : Client}
    (h : make files c = .ok client) (l : Listing) :
    (endsFaint c.url.toList = false → ∀ cursor, ∃ v, client.location (.page l cursor) = .ok v) ∧
    ('?' ∉ c.url.toList → client.ownPairs l = []) ∧ (∀ pair ∈ l.fixedPairs, pair.1 ≠ "cursor") ∧
    (∀ cursor v, client.location (.page l cursor) = .ok v →
      pairsIn v.target = client.ownPairs l ++ l.fixedPairs ++
        (cursor.map fun text => ("cursor", text)).toList) ∧
    ∀ network draw keep limit,
      let asked := (Walk.run (client.fetchPage network draw l) keep limit Walk.start).asked
      ∀ i cursor later, asked[i]? = some cursor → asked[i + 1]? = some later →
        ∃ page text v, client.AnsweredWith (network i) (draw i) (.page l cursor) page ∧
          page.cursor = some text ∧ client.location (.page l later) = .ok v ∧
          pairsIn v.target = client.ownPairs l ++ l.fixedPairs ++ [("cursor", text)] := by
  obtain ⟨-, -, -, hbase⟩ := of_make h
  refine ⟨fun hunblank cursor => exists_location h hunblank _,
    fun hmark => ownPairs_eq_nil hbase hmark l, l.ne_cursor_of_mem_fixedPairs,
    fun cursor v hv => pairsIn_location hv, ?_⟩
  -- a cursor that is asked with was handed out by the page before, which was answered
  intro network draw keep limit asked i cursor later hcursor hlater
  obtain ⟨page, text, hpage, htext, rfl⟩ := Walk.exists_page_of_asked _ keep hcursor hlater
  have hanswered : client.AnsweredWith (network i) (draw i) (.page l cursor) page :=
    answeredWith_of_result hpage
  obtain ⟨u, hu⟩ := hanswered.exists_location
  obtain ⟨v, hv⟩ := exists_location_page hu (some text)
  exact ⟨page, text, v, hanswered, htext, hv, pairsIn_location hv⟩

/-- A cursor full of characters that mean something in a form, handed out with every page. -/
theorem escaped_cursor_arrives :
    let c := { Connection.blank with
      url := "https://nsx.test/lab/", username := some "admin", password := some "secret" }
    let text := "a&b=c+d %#é"
    let body := "\x7b\"cursor\":\"a&b=c+d %#é\"\x7d"
    let network : Nat → Network := fun _ _ _ => .answered 200 (some (utf8 body.toList))
    ∃ client v, make (fun _ => .error .missing) c = .ok client ∧
      (Walk.run (client.fetchPage network (fun _ => id) .balancers) (fun _ => true) 2
        Walk.start).asked = [none, some text] ∧
      client.location (.page .balancers (some text)) = .ok v ∧
      v.target = "/lab/policy/api/v1/infra/lb-services?include_mark_for_delete_objects=false" ++
        "&cursor=a%26b%3Dc%2Bd+%25%23%C3%A9" ∧
      pairsIn v.target = [("include_mark_for_delete_objects", "false"), ("cursor", text)] := by
  intro c text body network
  let client : Client := ⟨withoutSlashes c.url, some ("admin", "secret"), .ofConnection c⟩
  have hclient : make (fun _ => .error .missing) c = .ok client := by decide +kernel
  obtain ⟨hsome, hown, -, hpairs, hwalk⟩ := cursors_arrive_unchanged hclient .balancers
  have htokens : Json.tokens body =
      (Json.Tree.record [(.ok "cursor", .text (.ok text))]).tokens := by decide +kernel
  have hpage : Document.ofBytes (Page Balancer) (utf8 body.toList) = .ok ⟨[], some text, none⟩ := by
    rw [Document.ofBytes_utf8, Document.ofText_of_tokens htokens]
    rfl
  -- every page hands out the cursor again
  have hfetch (i : Nat) (cursor : Option String) :
      client.fetchPage network (fun _ => id) .balancers i cursor = .ok ⟨[], some text, none⟩ := by
    obtain ⟨v, hv⟩ := hsome (by decide +kernel) cursor
    have hreaction : client.reaction (network i) (.page .balancers cursor) 0 =
        .answered 200 (some (utf8 body.toList)) := by
      rw [reaction, hv]
    rw [fetchPage, exchange_eq, Exchange.run_turn, hreaction, if_neg (by decide)]
    exact mapError_eq_ok.2 hpage
  have hasked : (Walk.run (client.fetchPage network (fun _ => id) .balancers) (fun _ => true) 2
      Walk.start).asked = [none, some text] := by
    simp [Walk.run_succ, Walk.run_zero, Walk.start, hfetch, Walk.take_eq, Walk.advance_eq, Page.next?,
      text]
  obtain ⟨-, -, v, -, -, hv, -⟩ := hwalk network (fun _ => id) (fun _ => true) 2 0 none (some text)
    (by rw [hasked]; rfl) (by rw [hasked]; rfl)
  have htarget : (client.location (.page .balancers (some text))).map target = .ok
      ("/lab/policy/api/v1/infra/lb-services?include_mark_for_delete_objects=false" ++
        "&cursor=a%26b%3Dc%2Bd+%25%23%C3%A9") := by decide +kernel
  have hread := hpairs (some text) v hv
  rw [hown (by decide +kernel)] at hread
  rw [hv] at htarget
  exact ⟨client, v, hclient, hasked, hv, Except.ok.inj htarget, hread⟩

end Client

end FabricGauges
