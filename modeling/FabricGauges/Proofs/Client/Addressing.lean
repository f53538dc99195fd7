import FabricGauges.Proofs.Client.Base
import FabricGauges.Proofs.Client.Segments

/-!
# Where requests are addressed

A request is written behind the text of the configured URL, and the whole is read as a URL. That
gives the scheme, host and port of the configured URL, the path of the request in its folder and
nothing but the pairs of the request if, and only if, the text can be extended: it has no query and
no fragment, no blanks at its end, and no slashes at the end of the folder that it names apart from
those that have been taken away.
-/

namespace FabricGauges

open Text Url

/-- The query that holds the pairs of a request and nothing else. -/
def Request.query (r : Request) : Option (List Char) :=
  if (Form.encodePairs r.pairs).isEmpty then none else some (Form.encodePairs r.pairs)

/-- A text of a URL behind which paths can be written. -/
structure Url.Extensible (url : String) : Prop where
  /-- There is no query and no fragment. -/
  plain : ∀ c ∈ url.toList, endsPath c = false
  /-- There are no blanks at the end that are seen once more is written there. -/
  unblank : endsFaint url.toList = false
  /-- Without the slashes at the end of the text, its folder ends in a segment that is not empty. -/
  settled : ∀ s ∈ (readFolder (behindOrigin (begun (Client.withoutSlashes url).toList))).getLast?,
    s ≠ []

theorem Url.extensible_iff {url : String} :
    Extensible url ↔ url.toList.any endsPath = false ∧ endsFaint url.toList = false ∧
      (readFolder (behindOrigin (begun (Client.withoutSlashes url).toList))).getLast?.any
        List.isEmpty = false := by
  rw [List.any_eq_false, Option.any_eq_false]
  exact ⟨fun h => ⟨by simpa using h.plain, h.unblank, by simpa using h.settled⟩,
    fun h => ⟨by simpa using h.1, h.2.1, by simpa using h.2.2⟩⟩

instance (url : String) : Decidable (Extensible url) := decidable_of_iff' _ extensible_iff

namespace Client

/-- A request is addressed below a URL: with its scheme, host and port, with the segments of the
request in its folder, and with the pairs of the request and no others. -/
structure IsBelow (v u : Url) (r : Request) : Prop where
  scheme : v.scheme = u.scheme
  host : v.host = u.host
  port : v.port = u.port
  path : v.path = u.folder ++ r.below
  query : v.query = r.query

namespace Base

variable {url : String} {u : Url} (B : Base url u)

/-- The folder of a URL without a query and a fragment is the one that its text names, but for
slashes at the end. -/
theorem folder_eq (hplain : ∀ c ∈ url.toList, endsPath c = false) :
    u.folder = trimmed (readFolder B.tail) := by
  have hpath : IsPath B.tail := by
    intro c hc
    have hmem : c ∈ B.tail ++ B.blanks := List.mem_append_left _ (List.mem_of_mem_head? hc)
    simpa [endsAuthority, B.endsPath_of_mem_tail hplain c hmem] using B.isTail c hc
  have hinside : ∀ c ∈ B.tail, (!endsPath c) = true := by
    intro c hc
    simp [B.endsPath_of_mem_tail hplain c (List.mem_append_left _ hc)]
  have hslashes : ∀ c ∈ List.replicate B.slashes '/', (!endsPath c) = true := by
    intro c hc
    rw [List.eq_of_mem_replicate hc]
    decide
  rw [folder, (Origin.path_query_of_url B.url_eq).1, List.takeWhile_append_of_pos hinside,
    List.takeWhile_eq_self_iff.2 hslashes, trimmed_readPath hpath]

include B in
/-- Behind a query or a fragment, a path is not read as one. -/
theorem path_eq_of_endsPath {c : Char} (hc : c ∈ url.toList) (hends : endsPath c = true)
    {path : String} {p : List Char} (hpath : path.toList = '/' :: p) {v : Url}
    (h : Url.ofText (withoutSlashes url ++ path) = .ok v) : v.path = u.path := by
  have hshort : (B.tail.takeWhile (!endsPath ·)).length ≠ B.tail.length := by
    intro hlength
    have hall := (List.takeWhile_sublist (!endsPath ·)).eq_of_length hlength
    have hnot := List.takeWhile_eq_self_iff.1 hall c ((B.mem_tail_iff hends).1 hc)
    simp [hends] at hnot
  have htake (more : List Char) :
      (B.tail ++ more).takeWhile (!endsPath ·) = B.tail.takeWhile (!endsPath ·) := by
    rw [List.takeWhile_append, if_neg hshort]
  rw [(Origin.path_query_of_url B.url_eq).1, (Origin.path_query_of_url (B.goes_on hpath h).2).1,
    List.append_assoc, htake, htake]

end Base

/-- The path of a URL is not that of a request in its folder. -/
theorem path_ne_below (u : Url) (r : Request) : u.path ≠ u.folder ++ r.below := by
  intro h
  obtain ⟨word, rest, hsegments, hword⟩ := r.exists_segments
  have hempty := eq_nil_of_path_eq h (Percent.encode isPathEscaped word.toList)
    (by simp [Request.below, hsegments])
  have hnil := Percent.encode_eq_nil hempty
  rcases hword with rfl | rfl <;> exact absurd hnil (by decide)

/-- A request is asked for at the URL of its text, with its pairs. -/
theorem location_eq_ok {client : Client} {r : Request} {v : Url} :
    client.location r = .ok v ↔
      ∃ w, Url.ofText (client.baseUrl ++ r.path) = .ok w ∧ v = w.addPairs r.pairs := by
  rw [location, Client.url]
  cases Url.ofText (client.baseUrl ++ r.path) with
  | error fault => simp [Except.map]
  | ok w => simp [Except.map, eq_comm]

/-- For each client that is made from settings, a request whose identifiers are segments is
addressed below the configured URL if, and only if, the text of the URL can be extended. -/
theorem requests_are_below_iff {files : Files} {c : Connection} {client : Client}
    (h : make files c = .ok client) :
    ∃ u, c.manager = .ok u ∧ ∀ r : Request, r.Enclosed →
      ((∃ v, client.location r = .ok v ∧ IsBelow v u r) ↔ Extensible c.url) := by
  obtain ⟨u, hmanager, hurl, hbase⟩ := of_make h
  obtain ⟨B⟩ := exists_base hurl
  refine ⟨u, hmanager, fun r hr => ?_⟩
  obtain ⟨p, hpath, -⟩ := r.exists_path
  simp only [location_eq_ok, hbase]
  constructor
  -- behind a query or a fragment, and behind blanks, the path of the request would not be below
  · rintro ⟨v, ⟨w, hw, rfl⟩, hbelow⟩
    have hplain : ∀ d ∈ c.url.toList, endsPath d = false := by
      intro d hd
      by_contra hends
      have hsame := B.path_eq_of_endsPath hd (eq_true_of_ne_false hends) hpath hw
      exact path_ne_below u r (hsame ▸ hbelow.path)
    have hon := (B.goes_on hpath hw).1
    have hfolder : readFolder (B.tail ++ B.blanks) = trimmed (readFolder B.tail) := by
      have hwpath := (B.path_eq hplain hpath hw).1
      rw [hr.takeWhile_ended, hr.readPath_append (B.isPath hplain hon)] at hwpath
      rw [← B.folder_eq hplain]
      exact List.append_cancel_right (hwpath.symm.trans hbelow.path)
    have hblanks : B.blanks = [] := by
      by_contra hne
      exact readFolder_append_blanks (hon.resolve_right hne) hne B.isFaint hfolder
    refine ⟨hplain, B.blanks_eq_nil.1 hblanks, ?_⟩
    rw [hblanks, List.append_nil] at hfolder
    rw [B.begun_eq, hblanks, List.append_nil, B.origin.behindOrigin_append B.isTail]
    exact trimmed_eq_self_iff.1 hfolder.symm
  -- a text that can be extended is the base itself, and its folder goes on with the segments
  · intro hext
    have hblanks := B.blanks_eq_nil.2 hext.unblank
    have hon : B.tail ≠ [] ∨ B.blanks = [] := .inr hblanks
    have hsettled := hext.settled
    rw [B.begun_eq, hblanks, List.append_nil, B.origin.behindOrigin_append B.isTail,
      ← trimmed_eq_self_iff, ← B.folder_eq hext.plain] at hsettled
    obtain ⟨w, hw, hscheme, hhost, hport⟩ :=
      Origin.exists_url B.url_eq (B.tail ++ B.blanks ++ ended r.path.toList)
    rw [← B.ofText_eq_url hon r.path hpath] at hw
    obtain ⟨hwpath, hwquery⟩ := B.path_eq hext.plain hpath hw
    refine ⟨w.addPairs r.pairs, ⟨w, hw, rfl⟩, hscheme, hhost, hport, ?_, ?_⟩
    · rwa [hr.takeWhile_ended, hr.readPath_append (B.isPath hext.plain hon), hblanks, List.append_nil,
        ← hsettled] at hwpath
    · rw [hr.dropWhile_ended] at hwquery
      rw [addPairs, hwquery, Request.query]
      simp only [readQuery, Option.getD_none]
      rfl

/-- A URL with slashes at the end of its folder, and a node whose identifier holds a blank. -/
theorem node_is_below_folder :
    let c := { Connection.blank with
      url := "https://nsx.test/lab//", username := some "admin", password := some "secret" }
    let r := Request.nodeStatus "n 1"
    ∃ client u v, make (fun _ => .error .missing) c = .ok client ∧ c.manager = .ok u ∧
      r.Enclosed ∧ Extensible c.url ∧ client.location r = .ok v ∧ IsBelow v u r ∧
      v.target = "/lab/api/v1/cluster/nodes/n%201/status" := by
  intro c r
  have hclient : make (fun _ => .error .missing) c =
      .ok ⟨withoutSlashes c.url, some ("admin", "secret"), .ofConnection c⟩ := by decide +kernel
  obtain ⟨u, hmanager, hbelow⟩ := requests_are_below_iff hclient
  have henclosed : r.Enclosed := by decide +kernel
  have hextensible : Extensible c.url := by decide +kernel
  obtain ⟨v, hv, hisBelow⟩ := (hbelow r henclosed).2 hextensible
  have htarget : (location ⟨withoutSlashes c.url, some ("admin", "secret"), .ofConnection c⟩ r).map
      target = .ok "/lab/api/v1/cluster/nodes/n%201/status" := by decide +kernel
  rw [hv] at htarget
  exact ⟨_, u, v, hclient, hmanager, henclosed, hextensible, hv, hisBelow, Except.ok.inj htarget⟩

/-- Behind a query, the path of a request is a part of the query. -/
theorem query_takes_path :
    let c := { Connection.blank with
      url := "https://nsx.test/?x=1", username := some "admin", password := some "secret" }
    ∃ client u v, make (fun _ => .error .missing) c = .ok client ∧ c.manager = .ok u ∧
      client.location .clusterStatus = .ok v ∧ ¬ IsBelow v u .clusterStatus ∧
      v.target = "/?x=1/api/v1/cluster/status" := by
  refine ⟨_, _, _, rfl, rfl, rfl, ?_, by rfl⟩
  intro h
  exact absurd h.path (by decide +kernel)

end Client

end FabricGauges
