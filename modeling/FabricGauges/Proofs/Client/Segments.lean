import FabricGauges.Client.Addressing
import FabricGauges.Proofs.Url.Path
import FabricGauges.Proofs.Url.Visible

/-!
# The segments of a request

The path of a request is made of segments, each behind a slash: fixed words and the identifiers of
the request. The segments tell requests apart, up to the page of a listing. A text is one segment of
a URL only if nothing in it is taken for a slash, for the end of the path or for a dot segment.
-/

namespace FabricGauges

open Text Url

/-! ## Segments -/

/-- Whether a text is one segment where a path is written: nothing in it is a slash, ends the path
or goes unseen, and it is no dot segment. -/
def Url.isSegment (s : List Char) : Bool :=
  s.all (fun c => !endsAuthority c && isSeen c) && !isDots s

/-- A segment has no character that ends it, or that is dropped from a URL. -/
theorem Url.mem_of_isSegment {s : List Char} {c : Char} (h : isSegment s = true) (hc : c ∈ s) :
    isSlash c = false ∧ endsPath c = false ∧ isSeen c = true := by
  have hall := List.all_eq_true.1 (Bool.and_eq_true_iff.1 h).1 c hc
  simpa [endsAuthority, and_assoc] using hall

theorem Url.isDots_of_isSegment {s : List Char} (h : isSegment s = true) : isDots s = false := by
  simpa using (Bool.and_eq_true_iff.1 h).2

/-- Segments as a path writes them. -/
def joined (segments : List String) : List Char := segments.flatMap fun s => '/' :: s.toList

theorem joined_append (first second : List String) :
    joined (first ++ second) = joined first ++ joined second := List.flatMap_append

namespace Request

/-- The identifiers of a request. -/
def ids : Request → List String
  | clusterStatus | page _ _ => []
  | nodeConfig node | nodeStatus node | interfaces node => [node]
  | interface node id | interfaceCounters node id => [node, id]
  | balancer id | balancerStatus id | balancerStatistics id | virtualServer id | pool id
  | gatewayState _ id => [id]

/-- The segments of the path of a listing. -/
def listingSegments : Listing → List String
  | .balancers => ["policy", "api", "v1", "infra", "lb-services"]
  | .gateways kind => ["policy", "api", "v1", "infra", kind.collection]

/-- The segments of the path of a request. -/
def segments : Request → List String
  | clusterStatus => ["api", "v1", "cluster", "status"]
  | nodeConfig node => ["api", "v1", "cluster", "nodes", node]
  | nodeStatus node => ["api", "v1", "cluster", "nodes", node, "status"]
  | interfaces node => ["api", "v1", "cluster", "nodes", node, "network", "interfaces"]
  | interface node id => ["api", "v1", "cluster", "nodes", node, "network", "interfaces", id]
  | interfaceCounters node id =>
    ["api", "v1", "cluster", "nodes", node, "network", "interfaces", id, "stats"]
  | page listing _ => listingSegments listing
  | balancer id => ["policy", "api", "v1", "infra", "lb-services", id]
  | balancerStatus id => ["policy", "api", "v1", "infra", "lb-services", id, "detailed-status"]
  | balancerStatistics id => ["policy", "api", "v1", "infra", "lb-services", id, "statistics"]
  | virtualServer id => ["policy", "api", "v1", "infra", "lb-virtual-servers", id]
  | pool id => ["policy", "api", "v1", "infra", "lb-pools", id]
  | gatewayState kind id => ["policy", "api", "v1", "infra", kind.collection, id, "state"]

/-- The request without what tells the pages of a listing apart. -/
def withoutCursor : Request → Request
  | page listing _ => page listing none
  | r => r

end Request

/-- What is written behind a path is joined to it. -/
theorem toList_append_joined {path more : String} {segments words : List String}
    (hpath : path.toList = joined segments) (hmore : more.toList = joined words) :
    (path ++ more).toList = joined (segments ++ words) := by
  rw [String.toList_append, hpath, hmore, joined_append]

/-- An identifier behind a slash is joined to the path before it. -/
theorem toList_append_id {path : String} {segments : List String} (id : String)
    (hpath : path.toList = joined segments ++ ['/']) :
    (path ++ id).toList = joined (segments ++ [id]) := by
  rw [String.toList_append, hpath, joined_append]
  simp [joined]

/-- A path to which an identifier is going to be joined. -/
theorem toList_append_slash {path more : String} {segments words : List String}
    (hpath : path.toList = joined segments) (hmore : more.toList = joined words ++ ['/']) :
    (path ++ more).toList = joined (segments ++ words) ++ ['/'] := by
  rw [String.toList_append, hpath, hmore, joined_append, List.append_assoc]

namespace Request

theorem toList_nodePath (node : String) :
    (nodePath node).toList = joined ["api", "v1", "cluster", "nodes", node] := by
  have hnodes : "/api/v1/cluster/nodes/".toList =
      joined ["api", "v1", "cluster", "nodes"] ++ ['/'] := by decide +kernel
  exact toList_append_id node hnodes

theorem toList_interfaces :
    "/network/interfaces/".toList = joined ["network", "interfaces"] ++ ['/'] := by decide +kernel

/-- The path of a listing consists of its segments. -/
theorem toList_listingPath (listing : Listing) :
    listing.path.toList = joined (listingSegments listing) := by
  match listing with
  | .balancers | .gateways .tier0 | .gateways .tier1 => decide +kernel

/-- The path of a request is made of its segments. -/
theorem toList_path (r : Request) : r.path.toList = joined r.segments := by
  have hslash : "/".toList = joined [] ++ ['/'] := by decide +kernel
  cases r with
  | clusterStatus => decide +kernel
  | nodeConfig node => exact toList_nodePath node
  | nodeStatus node =>
    have hstatus : "/status".toList = joined ["status"] := by decide +kernel
    exact toList_append_joined (toList_nodePath node) hstatus
  | interfaces node =>
    have hinterfaces : "/network/interfaces".toList = joined ["network", "interfaces"] := by
      decide +kernel
    exact toList_append_joined (toList_nodePath node) hinterfaces
  | interface node id =>
    exact toList_append_id id (toList_append_slash (toList_nodePath node) toList_interfaces)
  | interfaceCounters node id =>
    have hstats : "/stats".toList = joined ["stats"] := by decide +kernel
    exact toList_append_joined
      (toList_append_id id (toList_append_slash (toList_nodePath node) toList_interfaces)) hstats
  | page listing _ => exact toList_listingPath listing
  | balancer id =>
    exact toList_append_id id (toList_append_slash (toList_listingPath .balancers) hslash)
  | balancerStatus id =>
    have hstatus : "/detailed-status".toList = joined ["detailed-status"] := by decide +kernel
    exact toList_append_joined
      (toList_append_id id (toList_append_slash (toList_listingPath .balancers) hslash)) hstatus
  | balancerStatistics id =>
    have hstatistics : "/statistics".toList = joined ["statistics"] := by decide +kernel
    exact toList_append_joined
      (toList_append_id id (toList_append_slash (toList_listingPath .balancers) hslash)) hstatistics
  | virtualServer id =>
    have hservers : "/policy/api/v1/infra/lb-virtual-servers/".toList =
        joined ["policy", "api", "v1", "infra", "lb-virtual-servers"] ++ ['/'] := by decide +kernel
    exact toList_append_id id hservers
  | pool id =>
    have hpools : "/policy/api/v1/infra/lb-pools/".toList =
        joined ["policy", "api", "v1", "infra", "lb-pools"] ++ ['/'] := by decide +kernel
    exact toList_append_id id hpools
  | gatewayState kind id =>
    have hstate : "/state".toList = joined ["state"] := by decide +kernel
    exact toList_append_joined
      (toList_append_id id (toList_append_slash (toList_listingPath (.gateways kind)) hslash)) hstate

/-- The kind of the gateways that a collection holds. -/
def kindOf? : String → Option GatewayKind
  | "tier-0s" => some .tier0
  | "tier-1s" => some .tier1
  | _ => none

/-- The request of some segments, for the first page if it asks for one. -/
def ofSegments? : List String → Option Request
  | ["api", "v1", "cluster", "status"] => some clusterStatus
  | "api" :: "v1" :: "cluster" :: "nodes" :: node :: rest =>
    match rest with
    | [] => some (nodeConfig node)
    | ["status"] => some (nodeStatus node)
    | ["network", "interfaces"] => some (interfaces node)
    | ["network", "interfaces", id] => some (interface node id)
    | ["network", "interfaces", id, "stats"] => some (interfaceCounters node id)
    | _ => none
  | ["policy", "api", "v1", "infra", "lb-virtual-servers", id] => some (virtualServer id)
  | ["policy", "api", "v1", "infra", "lb-pools", id] => some (pool id)
  | "policy" :: "api" :: "v1" :: "infra" :: "lb-services" :: rest =>
    match rest with
    | [] => some (page .balancers none)
    | [id] => some (balancer id)
    | [id, "detailed-status"] => some (balancerStatus id)
    | [id, "statistics"] => some (balancerStatistics id)
    | _ => none
  | ["policy", "api", "v1", "infra", collection] =>
    (kindOf? collection).map fun kind => page (.gateways kind) none
  | ["policy", "api", "v1", "infra", collection, id, "state"] =>
    (kindOf? collection).map fun kind => gatewayState kind id
  | _ => none

/-- The segments of a request tell which one it is, up to the page of a listing. -/
theorem ofSegments?_segments (r : Request) : ofSegments? r.segments = some r.withoutCursor := by
  cases r with
  | page listing _ =>
    match listing with
    | .balancers | .gateways .tier0 | .gateways .tier1 => rfl
  | gatewayState kind id => cases kind <;> rfl
  | _ => rfl

/-- The fixed words of paths. -/
def words : List String :=
  ["api", "v1", "cluster", "status", "nodes", "network", "interfaces", "stats", "policy", "infra",
    "lb-services", "detailed-status", "statistics", "lb-virtual-servers", "lb-pools", "state",
    "tier-0s", "tier-1s"]

/-- A segment is a fixed word or an identifier. -/
theorem mem_words_or_ids (r : Request) : ∀ s ∈ r.segments, s ∈ words ∨ s ∈ r.ids := by
  cases r with
  | page listing _ =>
    match listing with
    | .balancers | .gateways .tier0 | .gateways .tier1 =>
      simp [segments, listingSegments, words, GatewayKind.collection]
  | gatewayState kind id => cases kind <;> simp [segments, words, ids, GatewayKind.collection]
  | _ => simp [segments, words, ids]

/-! ## Requests whose identifiers are segments -/

/-- A request all of whose identifiers are segments where its path is written. -/
structure Enclosed (r : Request) : Prop where
  segment : ∀ id ∈ r.ids, isSegment id.toList = true
  /-- Nothing at the end of the path is taken for a blank behind it. -/
  ending : ∀ c ∈ r.path.toList.getLast?, isFaint c = false

theorem enclosed_iff {r : Request} :
    r.Enclosed ↔ r.ids.all (Url.isSegment ·.toList) ∧ r.path.toList.getLast?.any isFaint = false := by
  rw [List.all_eq_true, Option.any_eq_false]
  exact ⟨fun h => ⟨h.segment, by simpa using h.ending⟩, fun h => ⟨h.1, by simpa using h.2⟩⟩

instance (r : Request) : Decidable r.Enclosed := decidable_of_iff' _ enclosed_iff

/-- The segments of a request as a URL holds them. -/
def below (r : Request) : List (List Char) :=
  r.segments.map fun s => Percent.encode isPathEscaped s.toList

/-- An enclosed request has segments that stay segments. -/
theorem Enclosed.isSegment {r : Request} (h : r.Enclosed) :
    ∀ s ∈ r.segments, isSegment s.toList = true := by
  have hwords : ∀ w ∈ words, Url.isSegment w.toList = true := by decide +kernel
  intro s hs
  exact (mem_words_or_ids r s hs).elim (hwords s) (h.segment s)

/-- A path begins with a slash and a word. -/
theorem exists_segments (r : Request) :
    ∃ word rest, r.segments = word :: rest ∧ (word = "api" ∨ word = "policy") := by
  cases r with
  | page listing _ => cases listing <;> exact ⟨_, _, rfl, .inr rfl⟩
  | clusterStatus | nodeConfig _ | nodeStatus _ | interfaces _ | interface _ _
  | interfaceCounters _ _ => exact ⟨_, _, rfl, .inl rfl⟩
  | _ => exact ⟨_, _, rfl, .inr rfl⟩

/-- A character of a path is a slash or one of a segment. -/
theorem mem_path {r : Request} {c : Char} (h : c ∈ r.path.toList) :
    c = '/' ∨ ∃ s ∈ r.segments, c ∈ s.toList := by
  rw [toList_path] at h
  obtain ⟨s, hs, hc⟩ := List.mem_flatMap.1 h
  exact (List.mem_cons.1 hc).imp_right fun hc => ⟨s, hs, hc⟩

theorem mem_path_of_mem_segments {r : Request} {s : String} {c : Char} (hs : s ∈ r.segments)
    (hc : c ∈ s.toList) : c ∈ r.path.toList := by
  rw [toList_path]
  exact List.mem_flatMap.2 ⟨s, hs, List.mem_cons_of_mem _ hc⟩

/-- The path of a request is cut into its segments, if these are not cut themselves. -/
theorem exists_path (r : Request) :
    ∃ p, r.path.toList = '/' :: p ∧ ((∀ s ∈ r.segments, ∀ c ∈ s.toList, isSlash c = false) →
      pieces isSlash p = r.segments.map String.toList) := by
  obtain ⟨word, rest, hsegments, -⟩ := exists_segments r
  refine ⟨word.toList ++ (rest.map String.toList).flatMap ('/' :: ·), ?_, fun h => ?_⟩
  · rw [toList_path, hsegments, joined, List.flatMap_cons, List.flatMap_map]
    rfl
  · rw [hsegments, List.map_cons]
    refine pieces_joined rfl fun p hp => ?_
    rw [← List.map_cons, ← hsegments] at hp
    obtain ⟨s, hs, rfl⟩ := List.mem_map.1 hp
    exact h s hs

/-- The path of an enclosed request is all seen, and nothing in it ends a path. -/
theorem Enclosed.seen {r : Request} (h : r.Enclosed) :
    ended r.path.toList = r.path.toList ∧ ∀ c ∈ r.path.toList, endsPath c = false := by
  have hall : ∀ c ∈ r.path.toList, endsPath c = false ∧ isSeen c = true := by
    intro c hc
    rcases mem_path hc with rfl | ⟨s, hs, hin⟩
    · decide
    · have hsegment := mem_of_isSegment (h.isSegment s hs) hin
      exact ⟨hsegment.2.1, hsegment.2.2⟩
  exact ⟨ended_eq_self (fun c hc => (hall c hc).2) h.ending, fun c hc => (hall c hc).1⟩

theorem Enclosed.takeWhile_ended {r : Request} (h : r.Enclosed) :
    (ended r.path.toList).takeWhile (!endsPath ·) = r.path.toList := by
  obtain ⟨hended, hinside⟩ := h.seen
  rw [hended, List.takeWhile_eq_self_iff]
  intro c hc
  simp [hinside c hc]

theorem Enclosed.dropWhile_ended {r : Request} (h : r.Enclosed) :
    (ended r.path.toList).dropWhile (!endsPath ·) = [] := by
  obtain ⟨hended, hinside⟩ := h.seen
  rw [hended, List.dropWhile_eq_nil_iff]
  intro c hc
  simp [hinside c hc]

/-- Behind a path, an enclosed request has its segments in the folder that the path names. -/
theorem Enclosed.readPath_append {r : Request} (h : r.Enclosed) {tail : List Char}
    (htail : IsPath tail) : readPath (tail ++ r.path.toList) = readFolder tail ++ r.below := by
  obtain ⟨p, hpath, hpieces⟩ := exists_path r
  have hsegments := hpieces fun s hs c hc => (mem_of_isSegment (h.isSegment s hs) hc).1
  have hplain : ∀ s ∈ r.segments.map String.toList, isDots s = false := by
    intro s hs
    obtain ⟨segment, hsegment, rfl⟩ := List.mem_map.1 hs
    exact isDots_of_isSegment (h.isSegment segment hsegment)
  rw [hpath, Url.readPath_append htail, hsegments, resolve_plain hplain, List.map_map]
  rfl

end Request

end FabricGauges
