import FabricGauges.Proofs.Cycle.Join
import FabricGauges.Proofs.Cycle.Progress
import Mathlib.Data.List.DropRight

/-!
# Whose turn it is

What a cycle asks for is decided by the answers so far. Some answers name resources, in an order,
and each resource is gone through from its first document to its last part before the next one is
opened. `Cycle.InTurn` says that it is a request's turn, and `Cycle.fault?` what has gone wrong: the
last call has failed, or what the manager has said about a load balancer does not join. Both are
about the calls alone.
-/

namespace FabricGauges

/-! ## Resources -/

/-- The stage of a listing. -/
def Listing.stage : Listing → Stage
  | .balancers => .balancers
  | .gateways kind => .gateways kind

/-- The first request about a listed resource. -/
def Listing.detail : (l : Listing) → l.Item → Request
  | .balancers, b => .balancer b.id
  | .gateways kind, g => .gatewayState kind g.id

/-- Whether the filters accept a listed resource. -/
def Listing.accepts (filters : Filters) : (l : Listing) → l.Item → Bool
  | .balancers, b => filters.balancer.includes b.displayName b.id
  | .gateways kind, g => (filters.gateways kind).includes g.displayName g.id

namespace Request

/-- The stage whose next resource a request opens. -/
def opens? : Request → Option Stage
  | nodeStatus _ => some .nodes
  | balancer _ => some .balancers
  | gatewayState kind _ => some (.gateways kind)
  | _ => none

/-- The request for the document before, of the documents about one resource. -/
def follows? : Request → Option Request
  | nodeConfig id => some (nodeStatus id)
  | interfaces id => some (nodeConfig id)
  | balancerStatus id => some (balancer id)
  | balancerStatistics id => some (balancerStatus id)
  | _ => none

/-- Whether the answer may name resources. -/
def lists : Request → Bool
  | clusterStatus | page _ _ => true
  | _ => false

/-- Whether a request is about a load balancer that has been opened. -/
def isPart : Request → Bool
  | balancerStatus _ | balancerStatistics _ | virtualServer _ | pool _ => true
  | _ => false

end Request

/-- The resources that an answer names and the filters accept, each by its first request. -/
def Call.names (filters : Filters) : Call → List Request
  | ⟨.clusterStatus, .ok status⟩ => status.nodeIds.map .nodeStatus
  | ⟨.page l _, .ok page⟩ => (page.results.filter (l.accepts filters)).map l.detail
  | _ => []

/-- The requests about an interface of a node. -/
def interfaceRequests (node : String) (i : Interface) : List Request :=
  [.interface node i.id, .interfaceCounters node i.id]

/-! ## Parts of load balancers -/

/-- What the status of a load balancer lists. -/
inductive BalancerPart where
  | virtualServer (status : VirtualServerStatus)
  | pool (status : PoolStatus)

/-- The virtual servers, and then the pools. -/
def BalancerStatus.parts (s : BalancerStatus) : List BalancerPart :=
  s.virtualServers.map .virtualServer ++ s.pools.map .pool

/-- What is wrong with a member of a pool, given the statistics of the pool. -/
def memberFault? (balancer : String) (statistics : PoolStatistics) (status : MemberStatus) :
    Option ScrapeError :=
  match memberKey status.address status.port with
  | none => some (.missingKey "pool member" balancer)
  | some key =>
    if ∃ s ∈ statistics.members, memberKey s.address s.port = some key then none
    else some (.unresolved "pool member statistics" key balancer)

namespace BalancerPart

def path? : BalancerPart → Option String
  | virtualServer status => status.path
  | pool status => status.path

/-- The request for the settings, which are named by the last segment of the path. -/
def requests : BalancerPart → List Request
  | virtualServer status => status.requests
  | pool status => status.requests

/-- The error of a part without a path. -/
def missingPath (balancer : String) : BalancerPart → ScrapeError
  | virtualServer _ => .missingKey "virtual server" balancer
  | pool _ => .missingKey "pool" balancer

/-- What is wrong with a part that has a path, once its settings are known. -/
def fault? (allowed : AllowList) (balancer : String) (statistics : BalancerStatistics)
    (path : String) : BalancerPart → Call → Option ScrapeError
  | virtualServer _, ⟨.virtualServer _, .ok settings⟩ =>
    if allowed.includes settings.displayName settings.id ∧
        ∀ s ∈ statistics.virtualServers, s.path ≠ some path then
      some (.unresolved "virtual server statistics" path balancer)
    else none
  | pool status, ⟨.pool _, .ok _⟩ =>
    match statistics.pools.find? fun s => s.path = some path with
    | none => some (.unresolved "pool statistics" path balancer)
    | some found => status.members.findSome? (memberFault? balancer found)
  | _, _ => none

end BalancerPart

/-! ## Faults -/

/-- The first fault among the parts of a load balancer whose settings are known so far, or in the
path of the part that is next. -/
def partsFault? (allowed : AllowList) (balancer : String) (statistics : BalancerStatistics) :
    List BalancerPart → List Call → Option ScrapeError
  | [], _ => none
  | part :: parts, calls =>
    match part.path? with
    | none => some (part.missingPath balancer)
    | some path =>
      match calls with
      | [] => none
      | c :: calls =>
        (part.fault? allowed balancer statistics path c).or
          (partsFault? allowed balancer statistics parts calls)

/-- What does not join in the answers about a load balancer, from its status on. -/
def balancerFault? (allowed : AllowList) : List Call → Option ScrapeError
  | ⟨.balancerStatus id, .ok statuses⟩ :: later =>
    match statuses.single "load balancer status" id with
    | .error e => some e
    | .ok status =>
      match later with
      | ⟨.balancerStatistics _, .ok page⟩ :: calls =>
        match page.single "load balancer statistics" id with
        | .error e => some e
        | .ok statistics => partsFault? allowed id statistics status.parts calls
      | _ => none
  | _ => none

namespace Cycle

/-- What has gone wrong in a cycle: the last call has failed, or what has been said about the load
balancer that was opened last does not join. -/
def fault? (filters : Filters) (h : List Call) : Option ScrapeError :=
  match h.getLast? with
  | some ⟨_, .error e⟩ => some (.api e)
  | _ => balancerFault? filters.virtualServer (h.rtakeWhile (·.request.isPart))

/-! ## Turns -/

/-- The resources of a stage that have been opened. -/
def opened (stage : Stage) (h : List Call) : List Request :=
  (h.map (·.request)).filter fun r => r.opens? = some stage

/-- The resources of a stage that have been named. -/
def named (filters : Filters) (stage : Stage) (h : List Call) : List Request :=
  (h.flatMap (·.names filters)).filter fun r => r.opens? = some stage

/-- A request is the next one that the calls have given a name for. -/
inductive Named (filters : Filters) : List Call → Request → Prop
  | cluster : Named filters [] .clusterStatus
  | firstPage {h : List Call} {l : Listing} (unlisted : ∀ c ∈ h, c.request.stage ≠ l.stage) :
      Named filters h (.page l none)
  /-- A further page, by the cursor of the page before. -/
  | nextPage {before : List Call} {l : Listing} {cursor : Option String} {page : Page l.Item}
      {next : String} (hnext : page.next? = some next) :
      Named filters (before ++ [⟨.page l cursor, .ok page⟩]) (.page l (some next))
  /-- The first resource that has been named and not been opened. -/
  | resource {h : List Call} {r : Request} {stage : Stage} (opens : r.opens? = some stage)
      (next : opened stage h ++ [r] <+: named filters stage h) : Named filters h r
  | document {before : List Call} {c : Call} {r : Request} (follows : r.follows? = some c.request) :
      Named filters (before ++ [c]) r
  /-- The first request about the listed interfaces of a node that has not been made. -/
  | interface {before calls : List Call} {node : String} {page : Page Interface} {r : Request}
      (next : calls.map (·.request) ++ [r] <+: page.results.flatMap (interfaceRequests node)) :
      Named filters (before ++ ⟨.interfaces node, .ok page⟩ :: calls) r
  /-- The first request about the parts of a load balancer that has not been made. -/
  | part {before calls : List Call} {id : String} {statuses : Page BalancerStatus}
      {status : BalancerStatus} {statistics : Page BalancerStatistics} {r : Request}
      (single : statuses.results = [status])
      (next : calls.map (·.request) ++ [r] <+: status.parts.flatMap (·.requests)) :
      Named filters (before ++ ⟨.balancerStatus id, .ok statuses⟩ ::
        ⟨.balancerStatistics id, .ok statistics⟩ :: calls) r

/-- After some calls it is a request's turn: nothing has gone wrong, the cluster comes first and
only once, no call is of a later stage, all pages of a listing come before its resources, and the
request is the next one that has been named. -/
structure InTurn (filters : Filters) (h : List Call) (r : Request) : Prop where
  faultless : fault? filters h = none
  first : r = .clusterStatus ↔ h = []
  stages : ∀ c ∈ h, c.request.stage.position ≤ r.stage.position
  pages : r.isPage → ∀ c ∈ h, c.request.stage = r.stage → c.request.isPage
  named : Named filters h r

/-- A cycle may end with an error: with what has gone wrong, or with a broken chain of certificates.
-/
def EndsWith (filters : Filters) (h : List Call) (e : ScrapeError) : Prop :=
  fault? filters h = some e ∨ fault? filters h = none ∧ ∃ chain, e = .certificate chain

variable {filters : Filters} {h : List Call}

/-! ## Faults of histories -/

/-- A call that fails is a fault at once. -/
theorem fault?_error {q : Request} {e : ApiError} :
    fault? filters (h ++ [⟨q, .error e⟩]) = some (.api e) := by
  unfold fault?
  rw [List.getLast?_concat]

/-- A call that succeeds is a fault if the load balancer that it belongs to cannot be joined. -/
theorem fault?_ok {q : Request} {d : q.Answer} : fault? filters (h ++ [⟨q, .ok d⟩]) =
    balancerFault? filters.virtualServer
      (List.rtakeWhile (·.request.isPart) (h ++ [⟨q, .ok d⟩])) := by
  unfold fault?
  rw [List.getLast?_concat]

/-- A document that is not about an opened load balancer leaves nothing to be joined. -/
theorem fault?_of_not_isPart {q : Request} {d : q.Answer} (hq : q.isPart = false) :
    fault? filters (h ++ [⟨q, .ok d⟩]) = none := by
  rw [fault?_ok, List.rtakeWhile_concat, if_neg (by simp [hq])]
  rfl

/-- What has been said since a load balancer was opened. -/
theorem rtakeWhile_opened {c : Call} {calls : List Call} (hc : c.request.isPart = false)
    (hcalls : ∀ d ∈ calls, d.request.isPart) :
    List.rtakeWhile (·.request.isPart) (h ++ c :: calls) = calls := by
  induction calls using List.reverseRecOn with
  | nil => rw [List.rtakeWhile_concat, if_neg (by simp [hc])]
  | append_singleton calls d ih =>
    rw [List.forall_mem_append] at hcalls
    have hd : d.request.isPart := hcalls.2 d List.mem_cons_self
    rw [← List.cons_append, ← List.append_assoc, List.rtakeWhile_concat, if_pos hd, ih hcalls.1]

/-- Behind the settings of a load balancer, only its own calls matter. -/
theorem fault?_opened {id : String} {settings : Balancer} {calls : List Call}
    (hcalls : ∀ c ∈ calls, c.request.isPart) (hsucceeded : ∀ c ∈ calls, c.Succeeded) :
    fault? filters (h ++ ⟨.balancer id, .ok settings⟩ :: calls) =
      balancerFault? filters.virtualServer calls := by
  have hopened := rtakeWhile_opened (h := h) (c := ⟨.balancer id, .ok settings⟩) rfl hcalls
  rcases List.eq_nil_or_concat calls with rfl | ⟨first, ⟨q, answer⟩, rfl⟩
  · rw [fault?_ok, hopened]
  · obtain ⟨d, rfl⟩ : ∃ d, answer = .ok d := hsucceeded ⟨q, answer⟩ (by simp)
    have hlast : h ++ ⟨.balancer id, .ok settings⟩ :: first.concat ⟨q, .ok d⟩ =
        (h ++ ⟨.balancer id, .ok settings⟩ :: first) ++ [⟨q, .ok d⟩] := by simp
    rw [hlast, fault?_ok, ← hlast, hopened]

end Cycle

/-! ## Joined parts -/

/-- A part has been joined: its settings are known, and nothing is wrong with it. -/
structure BalancerPart.Joined (allowed : AllowList) (balancer : String)
    (statistics : BalancerStatistics) (part : BalancerPart) (c : Call) : Prop where
  succeeded : c.Succeeded
  requests : part.requests = [c.request]
  faultless : ∃ path, part.path? = some path ∧
    part.fault? allowed balancer statistics path c = none

/-- Some parts have been joined, each by one call. -/
abbrev AllJoined (allowed : AllowList) (balancer : String) (statistics : BalancerStatistics) :
    List BalancerPart → List Call → Prop :=
  List.Forall₂ (BalancerPart.Joined allowed balancer statistics)

section

variable {allowed : AllowList} {balancer : String} {statistics : BalancerStatistics}
  {joined parts : List BalancerPart} {calls later : List Call}

/-- The parts that have been joined are passed by. -/
theorem partsFault?_append (h : AllJoined allowed balancer statistics joined calls) :
    partsFault? allowed balancer statistics (joined ++ parts) (calls ++ later) =
      partsFault? allowed balancer statistics parts later := by
  induction h with
  | nil => rfl
  | cons hjoined _ ih =>
    obtain ⟨path, hpath, hfault⟩ := hjoined.faultless
    rw [List.cons_append, List.cons_append, partsFault?, hpath]
    dsimp only
    rw [hfault, Option.none_or, ih]

/-- The requests for the parts of a load balancer open nothing and name nothing. -/
theorem BalancerPart.of_mem_requests {part : BalancerPart} {r : Request}
    (h : r ∈ part.requests) :
    r.isPart ∧ r.stage = .balancers ∧ r.lists = false ∧ r.opens? = none := by
  cases part with
  | virtualServer status =>
    obtain ⟨path, -, rfl⟩ : ∃ path, status.path = some path ∧
        .virtualServer (lastSegment path) = r := by
      simpa [requests, VirtualServerStatus.requests] using h
    exact ⟨rfl, rfl, rfl, rfl⟩
  | pool status =>
    obtain ⟨path, -, rfl⟩ : ∃ path, status.path = some path ∧
        .pool (lastSegment path) = r := by
      simpa [requests, PoolStatus.requests] using h
    exact ⟨rfl, rfl, rfl, rfl⟩

/-- The calls of what was joined are the requests for it, in order. -/
theorem map_request_of_joined (h : AllJoined allowed balancer statistics joined calls) :
    calls.map (·.request) = joined.flatMap (·.requests) := by
  induction h with
  | nil => rfl
  | cons hjoined _ ih =>
    rw [List.map_cons, List.flatMap_cons, ih, hjoined.requests]
    rfl

/-- These calls succeeded and belong to the stage of the load balancers. -/
theorem of_mem_joined (h : AllJoined allowed balancer statistics joined calls) :
    ∀ c ∈ calls, c.Succeeded ∧ c.request.isPart ∧ c.request.stage = .balancers := by
  intro c hc
  obtain ⟨part, -, hjoined⟩ := exists_of_mem_forall₂ h hc
  obtain ⟨hpart, hstage, -⟩ :=
    part.of_mem_requests (hjoined.requests ▸ List.mem_singleton_self c.request)
  exact ⟨hjoined.succeeded, hpart, hstage⟩

end

/-! ## Resources of histories -/

/-- A request that opens an item of a stage belongs to the stage. -/
theorem Request.stage_of_opens? {r : Request} {stage : Stage} (h : r.opens? = some stage) :
    r.stage = stage := by
  cases r <;> cases h <;> rfl

theorem Request.lists_of_opens? {r : Request} {stage : Stage} (h : r.opens? = some stage) :
    r.lists = false := by
  cases r <;> first | rfl | cases h

theorem Request.isPage_of_not_lists {r : Request} (h : r.lists = false) : r.isPage = false := by
  cases r <;> first | rfl | cases h

theorem Request.stage_page (l : Listing) (cursor : Option String) :
    (Request.page l cursor).stage = l.stage := by cases l <;> rfl

/-- The request for an item of a listing opens an item of its stage. -/
theorem Listing.opens?_detail (l : Listing) (x : l.Item) : (l.detail x).opens? = some l.stage := by
  cases l <;> rfl

theorem Call.names_of_not_lists {filters : Filters} {c : Call} (h : c.request.lists = false) :
    c.names filters = [] := by
  obtain ⟨q, answer⟩ := c
  cases q <;> first | rfl | cases h

namespace Cycle

variable {filters : Filters} {stage : Stage} {h : List Call}

/-- The items that are opened are those of the calls, in order. -/
theorem opened_append (stage : Stage) (h h' : List Call) :
    opened stage (h ++ h') = opened stage h ++ opened stage h' := by
  rw [opened, List.map_append, List.filter_append]
  rfl

/-- So are the items that are named. -/
theorem named_append (stage : Stage) (h h' : List Call) :
    named filters stage (h ++ h') = named filters stage h ++ named filters stage h' := by
  rw [named, List.flatMap_append, List.filter_append]
  rfl

/-- Calls of other stages open nothing. -/
theorem opened_eq_nil (hstage : ∀ c ∈ h, c.request.stage ≠ stage) : opened stage h = [] := by
  refine List.filter_eq_nil_iff.2 fun r hr hopens => ?_
  obtain ⟨c, hc, rfl⟩ := List.mem_map.1 hr
  exact hstage c hc (Request.stage_of_opens? (of_decide_eq_true hopens))

/-- Only calls that list something name items. -/
theorem named_of_not_lists (hlists : ∀ c ∈ h, c.request.lists = false) :
    named filters stage h = [] := by
  have hnames : h.flatMap (·.names filters) = [] :=
    List.flatMap_eq_nil_iff.2 fun c hc => Call.names_of_not_lists (hlists c hc)
  rw [named, hnames, List.filter_nil]

/-- A page names those of its items that are accepted. -/
theorem named_page {l : Listing} {cursor : Option String} {page : Page l.Item} :
    named filters l.stage [⟨.page l cursor, .ok page⟩] =
      (page.results.filter (l.accepts filters)).map l.detail := by
  rw [named, List.flatMap_singleton]
  refine List.filter_eq_self.2 fun r hr => ?_
  obtain ⟨x, -, rfl⟩ := List.mem_map.1 hr
  exact decide_eq_true (l.opens?_detail x)

/-- The status of the cluster names its nodes. -/
theorem named_clusterStatus {status : ClusterStatus} :
    named filters .nodes [⟨.clusterStatus, .ok status⟩] = status.nodeIds.map .nodeStatus := by
  rw [named, List.flatMap_singleton]
  refine List.filter_eq_self.2 fun r hr => ?_
  obtain ⟨id, -, rfl⟩ := List.mem_map.1 hr
  rfl

/-- What a listing names is named by its own pages only. -/
theorem named_listing_eq_nil {l : Listing} (hstage : ∀ c ∈ h, c.request.stage ≠ l.stage) :
    named filters l.stage h = [] := by
  refine List.filter_eq_nil_iff.2 fun r hr hopens => ?_
  obtain ⟨c, hc, hr⟩ := List.mem_flatMap.1 hr
  have hr' := of_decide_eq_true hopens
  unfold Call.names at hr
  split at hr
  · obtain ⟨id, -, rfl⟩ := List.mem_map.1 hr
    cases l <;> cases hr'
  · next l' cursor page =>
    obtain ⟨x, -, rfl⟩ := List.mem_map.1 hr
    rw [l'.opens?_detail, Option.some.injEq] at hr'
    refine hstage _ hc ?_
    rw [← hr']
    exact Request.stage_page l' cursor
  · cases hr

end Cycle

end FabricGauges
