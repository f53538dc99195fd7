import FabricGauges.Proofs.Cycle.Turn
import FabricGauges.Proofs.Script.Protocol

/-!
# The order of the calls of a cycle

A cycle asks for nothing out of turn, whatever the manager answers, and it ends at the first fault
with that very fault. The proof follows the text of the cycle. `Cycle.Standing` is what is known
between two resources of a stage, and `Cycle.Joining` what is known between two parts of a load
balancer.
-/

namespace FabricGauges.Cycle

open Fetch

variable {filters : Filters} {stage : Stage} {h : List Call} {done all : List Request}

/-! ## Between two resources -/

/-- All calls so far belong to earlier stages. -/
structure Past (filters : Filters) (stage : Stage) (h : List Call) : Prop where
  begun : h ≠ []
  faultless : fault? filters h = none
  stages : ∀ c ∈ h, c.request.stage.position < stage.position

/-- A cycle is in a stage, or has come to it, and nothing has gone wrong. -/
structure Going (filters : Filters) (stage : Stage) (h : List Call) : Prop where
  begun : h ≠ []
  faultless : fault? filters h = none
  stages : ∀ c ∈ h, c.request.stage.position ≤ stage.position

/-- The stage has named some resources, and the cycle has gone through the first ones. -/
structure Standing (filters : Filters) (stage : Stage) (done all : List Request) (h : List Call) :
    Prop extends Going filters stage h where
  opened_eq : opened stage h = done
  named_eq : named filters stage h = all

/-- A stage goes on through calls of its own that bring no fault. -/
theorem Going.append (hg : Going filters stage h) {calls : List Call}
    (hcalls : ∀ c ∈ calls, c.request.stage = stage) (hfault : fault? filters (h ++ calls) = none) :
    Going filters stage (h ++ calls) := by
  refine ⟨fun hnil => hg.begun (List.append_eq_nil_iff.1 hnil).1, hfault, ?_⟩
  refine List.forall_mem_append.2 ⟨hg.stages, fun c hc => ?_⟩
  rw [hcalls c hc]

theorem Going.answered (hg : Going filters stage h) {q : Request} (hstage : q.stage = stage)
    (hq : q.isPart = false) (d : q.Answer) : Going filters stage (h ++ [⟨q, .ok d⟩]) :=
  hg.append (by simpa using hstage) (fault?_of_not_isPart hq)

/-- When a stage goes well, the later ones may begin. -/
theorem Going.past (hg : Going filters stage h) {next : Stage}
    (hnext : stage.position < next.position) : Past filters next h :=
  ⟨hg.begun, hg.faultless, fun c hc => Nat.lt_of_le_of_lt (hg.stages c hc) hnext⟩

/-- The next resource is named. -/
theorem Standing.named_next (hs : Standing filters stage done all h) {r : Request}
    (hr : r.opens? = some stage) (hnext : done ++ [r] <+: all) : Named filters h r := by
  refine .resource hr ?_
  rw [hs.opened_eq, hs.named_eq]
  exact hnext

/-- Going through a resource, which names no others. -/
theorem Standing.append (hs : Standing filters stage done all h) {r : Request}
    (later : List Request) {calls : List Call} (hcalls : calls.map (·.request) = r :: later)
    (hr : r.opens? = some stage)
    (hlater : ∀ q ∈ later, q.stage = stage ∧ q.lists = false ∧ q.opens? = none)
    (hfault : fault? filters (h ++ calls) = none) :
    Standing filters stage (done ++ [r]) all (h ++ calls) := by
  have hrequest : ∀ c ∈ calls, c.request.stage = stage ∧ c.request.lists = false := by
    intro c hc
    have hmem : c.request ∈ r :: later := hcalls ▸ List.mem_map_of_mem hc
    rcases List.mem_cons.1 hmem with he | hmem
    · rw [he]
      exact ⟨Request.stage_of_opens? hr, Request.lists_of_opens? hr⟩
    · exact ⟨(hlater _ hmem).1, (hlater _ hmem).2.1⟩
  have hopened : opened stage calls = [r] := by
    have hrest : later.filter (fun r => r.opens? = some stage) = [] :=
      List.filter_eq_nil_iff.2 fun q hq => by simp [(hlater q hq).2.2]
    rw [opened, hcalls, List.filter_cons_of_pos (by simp [hr]), hrest]
  refine ⟨hs.toGoing.append (fun c hc => (hrequest c hc).1) hfault, ?_, ?_⟩
  · rw [opened_append, hs.opened_eq, hopened]
  · rw [named_append, hs.named_eq, named_of_not_lists fun c hc => (hrequest c hc).2,
      List.append_nil]

/-! ## Single requests -/

variable {α : Type}

/-- A script asks only in turn, and ends with what a cycle may end with. -/
abbrev TakesTurns (filters : Filters) (h : List Call) (f : Fetch α) (Q : List Call → α → Prop) :
    Prop := Obeys (InTurn filters) (EndsWith filters) h f Q

/-- Asking for a document in turn, and going on with it: if the call fails, so does the cycle. -/
theorem obeys_ask_then {q : Request} {g : q.Answer → Fetch α} {Q : List Call → α → Prop}
    (hg : Going filters stage h) (hstage : q.stage = stage) (hq : q.lists = false)
    (hnamed : Named filters h q)
    (hthen : ∀ d, TakesTurns filters (h ++ [⟨q, .ok d⟩]) (g d) Q) :
    TakesTurns filters h (ask q >>= g) Q := by
  have hturn : InTurn filters h q := by
    refine ⟨hg.faultless, iff_of_false ?_ hg.begun, hstage ▸ hg.stages, ?_, hnamed⟩
    · rintro rfl
      cases hq
    · intro hpage
      rw [Request.isPage_of_not_lists hq] at hpage
      cases hpage
  refine Obeys.bind (R := fun h' d => h' = h ++ [⟨q, .ok d⟩])
    (obeys_ask hturn (fun d => rfl) fun e => .inl fault?_error) ?_
  rintro _ d rfl
  exact hthen d

/-! ## Nodes -/

/-- The settings and the counters of an interface are fetched in turn. -/
theorem obeys_interface {node id : String} (hg : Going filters .nodes h)
    (hsettings : Named filters h (.interface node id))
    (hcounters : ∀ c : Call, c.request = .interface node id →
      Named filters (h ++ [c]) (.interfaceCounters node id)) :
    TakesTurns filters h (interface node id) fun h' _ =>
      ∃ calls, h' = h ++ calls ∧ fault? filters h' = none ∧
        calls.map (·.request) = [.interface node id, .interfaceCounters node id] := by
  refine obeys_ask_then hg rfl rfl hsettings fun settings => ?_
  refine obeys_ask_then (hg.answered rfl rfl settings) rfl rfl (hcounters _ rfl) fun counters => ?_
  exact obeys_pure ⟨_, List.append_assoc _ _ _, fault?_of_not_isPart rfl, rfl⟩

/-- The requests about the interfaces of a node open nothing. -/
theorem of_mem_interfaceRequests {node : String} {is : List Interface} {q : Request}
    (hq : q ∈ is.flatMap (interfaceRequests node)) :
    q.stage = .nodes ∧ q.lists = false ∧ q.opens? = none := by
  obtain ⟨i, -, hq⟩ := List.mem_flatMap.1 hq
  have hcases : q = .interface node i.id ∨ q = .interfaceCounters node i.id := by
    simpa [interfaceRequests] using hq
  rcases hcases with rfl | rfl
  · exact ⟨rfl, rfl, rfl⟩
  · exact ⟨rfl, rfl, rfl⟩

/-- The requests that are next after those about the first interfaces. -/
theorem named_interface {node : String} {page : Page Interface} {before : List Interface}
    {i : Interface} {rest : List Interface} {calls : List Call}
    (hpage : page.results = before ++ i :: rest)
    (hcalls : calls.map (·.request) = before.flatMap (interfaceRequests node)) :
    Named filters (h ++ ⟨.interfaces node, .ok page⟩ :: calls) (.interface node i.id) ∧
      ∀ c : Call, c.request = .interface node i.id →
        Named filters (h ++ ⟨.interfaces node, .ok page⟩ :: (calls ++ [c]))
          (.interfaceCounters node i.id) := by
  have hall : page.results.flatMap (interfaceRequests node) =
      before.flatMap (interfaceRequests node) ++ [.interface node i.id] ++
        [.interfaceCounters node i.id] ++ rest.flatMap (interfaceRequests node) := by
    rw [hpage, List.flatMap_append, List.flatMap_cons]
    simp [interfaceRequests]
  refine ⟨.interface ?_, fun c hc => .interface ?_⟩
  · rw [hcalls, hall]
    exact ⟨_, (List.append_assoc _ _ _).symm⟩
  · rw [List.map_append, hcalls, List.map_singleton, hc, hall]
    exact List.prefix_append _ _

/-- Going through the interfaces that a page lists. -/
theorem obeys_interfaces {node : String} {page : Page Interface}
    (hg : Going filters .nodes (h ++ [⟨.interfaces node, .ok page⟩])) :
    TakesTurns filters (h ++ [⟨.interfaces node, .ok page⟩])
      (page.results.mapM fun i => interface node i.id) fun h' _ =>
        ∃ calls, h' = h ++ ⟨.interfaces node, .ok page⟩ :: calls ∧ fault? filters h' = none ∧
          calls.map (·.request) = page.results.flatMap (interfaceRequests node) := by
  -- those that have been gone through are the first ones of the page
  refine obeys_mapM (I := fun before h' => ∃ calls,
    h' = h ++ ⟨.interfaces node, .ok page⟩ :: calls ∧ fault? filters h' = none ∧
      calls.map (·.request) = before.flatMap (interfaceRequests node))
    ⟨[], rfl, hg.faultless, rfl⟩ ?_
  rintro before i rest _ hpage ⟨calls, rfl, hfault, hcalls⟩
  have hgoing : Going filters .nodes (h ++ ⟨.interfaces node, .ok page⟩ :: calls) := by
    rw [List.append_cons] at hfault ⊢
    refine hg.append (fun c hc => ?_) hfault
    have hmem : c.request ∈ before.flatMap (interfaceRequests node) :=
      hcalls ▸ List.mem_map_of_mem hc
    exact (of_mem_interfaceRequests hmem).1
  refine (obeys_interface hgoing (named_interface hpage hcalls).1 fun c hc => ?_).mono ?_
  · rw [List.append_assoc, List.cons_append]
    exact (named_interface hpage hcalls).2 c hc
  · rintro _ _ ⟨calls', rfl, hfault', hcalls'⟩
    refine ⟨calls ++ calls', by simp, hfault', ?_⟩
    rw [List.map_append, hcalls, hcalls', List.flatMap_append, List.flatMap_singleton]
    rfl

/-- A node is fetched after those before it. -/
theorem obeys_node {id : String} (hs : Standing filters .nodes done all h)
    (hnext : done ++ [.nodeStatus id] <+: all) :
    TakesTurns filters h (node id) fun h' _ =>
      Standing filters .nodes (done ++ [.nodeStatus id]) all h' := by
  have hg₀ := hs.toGoing
  refine obeys_ask_then hg₀ rfl rfl (hs.named_next rfl hnext) fun status => ?_
  have hg₁ := hg₀.answered (q := .nodeStatus id) rfl rfl status
  refine obeys_ask_then hg₁ rfl rfl (.document rfl) fun settings => ?_
  have hg₂ := hg₁.answered (q := .nodeConfig id) rfl rfl settings
  refine obeys_ask_then hg₂ rfl rfl (.document rfl) fun page => ?_
  have hg₃ := hg₂.answered (q := .interfaces id) rfl rfl page
  refine (obeys_interfaces hg₃).bind ?_
  rintro _ interfaces ⟨calls, rfl, hfault, hcalls⟩
  rw [List.append_assoc, List.append_assoc] at hfault ⊢
  refine obeys_log_then (obeys_pure (hs.append (.nodeConfig id :: .interfaces id ::
    page.results.flatMap (interfaceRequests id)) ?_ rfl ?_ hfault))
  · simp [hcalls]
  · refine List.forall_mem_cons.2 ⟨⟨rfl, rfl, rfl⟩, List.forall_mem_cons.2 ⟨⟨rfl, rfl, rfl⟩, ?_⟩⟩
    exact fun q hq => of_mem_interfaceRequests hq

/-! ## Parts of a load balancer -/

section

variable {start : List Call} {id : String} {status : BalancerStatus}
  {statistics : BalancerStatistics} {joined parts : List BalancerPart} {part : BalancerPart}

/-- A load balancer has been opened, its status and its statistics are known, and some of its parts
have been joined. -/
inductive Joining (filters : Filters) (start : List Call) (id : String) (status : BalancerStatus)
    (statistics : BalancerStatistics) (joined : List BalancerPart) : List Call → Prop
  | intro {settings : Balancer} {statuses : Page BalancerStatus} {page : Page BalancerStatistics}
      {calls : List Call} (hstatus : statuses.results = [status])
      (hstatistics : page.results = [statistics])
      (hcalls : AllJoined filters.virtualServer id statistics joined calls) :
      Joining filters start id status statistics joined
        (start ++ ⟨.balancer id, .ok settings⟩ :: ⟨.balancerStatus id, .ok statuses⟩ ::
          ⟨.balancerStatistics id, .ok page⟩ :: calls)

/-- Whatever is wrong is wrong with the parts that have not been joined. -/
theorem Joining.fault?_append (hj : Joining filters start id status statistics joined h)
    (hparts : status.parts = joined ++ parts) (later : List Call)
    (hlater : ∀ c ∈ later, c.request.isPart) (hsucceeded : ∀ c ∈ later, c.Succeeded) :
    fault? filters (h ++ later) =
      partsFault? filters.virtualServer id statistics parts later := by
  obtain @⟨settings, statuses, page, calls, hstatus, hstatistics, hcalls⟩ := hj
  rw [List.append_assoc, List.cons_append, List.cons_append, List.cons_append, fault?_opened]
  · unfold balancerFault?
    dsimp only
    rw [show statuses.single "load balancer status" id = .ok status from single_eq_ok.2 hstatus]
    dsimp only
    rw [show page.single "load balancer statistics" id = .ok statistics from
      single_eq_ok.2 hstatistics]
    dsimp only
    rw [hparts, partsFault?_append hcalls]
  · have hall := List.forall_mem_append.2 ⟨fun c hc => (of_mem_joined hcalls c hc).2.1, hlater⟩
    exact List.forall_mem_cons.2 ⟨rfl, List.forall_mem_cons.2 ⟨rfl, hall⟩⟩
  · have hall := List.forall_mem_append.2 ⟨fun c hc => (of_mem_joined hcalls c hc).1, hsucceeded⟩
    exact List.forall_mem_cons.2 ⟨⟨_, rfl⟩, List.forall_mem_cons.2 ⟨⟨_, rfl⟩, hall⟩⟩

/-- The fault of a balancer that is being joined is that of the parts still to come. -/
theorem Joining.fault? (hj : Joining filters start id status statistics joined h)
    (hparts : status.parts = joined ++ parts) :
    fault? filters h = partsFault? filters.virtualServer id statistics parts [] := by
  have hfault := hj.fault?_append hparts [] (by simp) (by simp)
  rwa [List.append_nil] at hfault

/-- The next part is named by the status. -/
theorem Joining.named (hj : Joining filters start id status statistics joined h)
    (hparts : status.parts = joined ++ part :: parts) {r : Request} (hr : part.requests = [r]) :
    Named filters h r := by
  obtain @⟨settings, statuses, page, calls, hstatus, hstatistics, hcalls⟩ := hj
  rw [List.append_cons]
  refine .part hstatus ?_
  rw [map_request_of_joined hcalls, hparts, List.flatMap_append, List.flatMap_cons, hr,
    ← List.append_assoc]
  exact List.prefix_append _ _

theorem Joining.going (hj : Joining filters start id status statistics joined h)
    (hg : Going filters .balancers start) (hfault : Cycle.fault? filters h = none) :
    Going filters .balancers h := by
  obtain @⟨settings, statuses, page, calls, hstatus, hstatistics, hcalls⟩ := hj
  refine hg.append ?_ hfault
  have hstage : ∀ c ∈ calls, c.request.stage = .balancers :=
    fun c hc => (of_mem_joined hcalls c hc).2.2
  exact List.forall_mem_cons.2 ⟨rfl, List.forall_mem_cons.2 ⟨rfl,
    List.forall_mem_cons.2 ⟨rfl, hstage⟩⟩⟩

/-- The settings of a part have been given, and nothing is wrong with it. -/
theorem Joining.next (hj : Joining filters start id status statistics joined h) {c : Call}
    (hc : part.Joined filters.virtualServer id statistics c) :
    Joining filters start id status statistics (joined ++ [part]) (h ++ [c]) := by
  obtain @⟨settings, statuses, page, calls, hstatus, hstatistics, hcalls⟩ := hj
  have hnext : Joining filters start id status statistics (joined ++ [part])
      (start ++ ⟨.balancer id, .ok settings⟩ :: ⟨.balancerStatus id, .ok statuses⟩ ::
        ⟨.balancerStatistics id, .ok page⟩ :: (calls ++ [c])) :=
    .intro hstatus hstatistics (List.rel_append hcalls (.cons hc .nil))
  simpa using hnext

/-- Asking for the settings of the next part. -/
theorem Joining.obeys_ask {α : Type} (hj : Joining filters start id status statistics joined h)
    (hg : Going filters .balancers start) (hparts : status.parts = joined ++ part :: parts)
    {path : String} (hpath : part.path? = some path) {q : Request} (hq : part.requests = [q])
    {g : q.Answer → Fetch α} {Q : List Call → α → Prop}
    (hthen : ∀ d,
      Cycle.fault? filters (h ++ [⟨q, .ok d⟩]) =
        (part.fault? filters.virtualServer id statistics path ⟨q, .ok d⟩).or
          (partsFault? filters.virtualServer id statistics parts []) →
      TakesTurns filters (h ++ [⟨q, .ok d⟩]) (g d) Q) :
    TakesTurns filters h (ask q >>= g) Q := by
  obtain ⟨hpart, hstage, hlists, -⟩ := part.of_mem_requests (hq ▸ List.mem_singleton_self q)
  have hfault : Cycle.fault? filters h = none := by
    rw [hj.fault? hparts, partsFault?, hpath]
  refine obeys_ask_then (hj.going hg hfault) hstage hlists (hj.named hparts hq) fun d => hthen d ?_
  rw [hj.fault?_append hparts _ (by simpa using hpart) (by simp [Call.Succeeded]), partsFault?, hpath]

theorem obeys_virtualServer? {x : VirtualServerStatus}
    (hj : Joining filters start id status statistics joined h)
    (hg : Going filters .balancers start)
    (hparts : status.parts = joined ++ .virtualServer x :: parts) :
    TakesTurns filters h
      (virtualServer? id filters.virtualServer (virtualServerIndex statistics) x) fun h' _ =>
        Joining filters start id status statistics (joined ++ [.virtualServer x]) h' := by
  refine obeys_require_then (fun path hpath => ?_) fun hnone => .inl ?_
  · have hrequests : BalancerPart.requests (.virtualServer x) =
        [.virtualServer (lastSegment path)] := requests_of_path hpath
    refine hj.obeys_ask hg hparts hpath hrequests fun settings hfault => ?_
    split
    -- an allowed one needs statistics, and their absence is the fault of the part
    · next hallowed =>
      refine obeys_require_then (fun found hfound => obeys_pure (hj.next ?_)) fun hnone => .inl ?_
      · refine ⟨⟨settings, rfl⟩, hrequests, path, hpath, if_neg ?_⟩
        rintro ⟨-, hmissing⟩
        rw [virtualServerIndex, Index.find?_ofList] at hfound
        exact hmissing found (List.mem_of_find?_eq_some hfound)
          (by simpa using List.find?_some hfound)
      · rw [virtualServerIndex, Index.find?_ofList, List.find?_eq_none] at hnone
        rw [hfault, BalancerPart.fault?, if_pos ⟨hallowed, by simpa using hnone⟩]
        rfl
    -- one that is left out needs none
    · next hrejected =>
      refine obeys_log_then (obeys_pure (hj.next ⟨⟨settings, rfl⟩, hrequests, path, hpath, ?_⟩))
      exact if_neg fun hmissing => hrejected hmissing.1
  · rw [hj.fault? hparts, partsFault?, show BalancerPart.path? (.virtualServer x) = none from hnone]
    rfl

/-- The fault of a member is the error of joining it. -/
theorem memberFault?_eq {found : PoolStatistics} (m : MemberStatus) :
    memberFault? id found m =
      match member id (memberIndex found) m with
      | .error e => some e
      | .ok _ => none := by
  unfold memberFault? member
  cases memberKey m.address m.port with
  | none => rfl
  | some key =>
    dsimp only
    rw [memberIndex, Index.find?_ofList]
    cases hfind : found.members.find? fun s => memberKey s.address s.port = some key with
    | none =>
      rw [List.find?_eq_none] at hfind
      rw [if_neg (by simpa using hfind)]
    | some s =>
      rw [if_pos ⟨s, List.mem_of_find?_eq_some hfind, by simpa using List.find?_some hfind⟩]

/-- What is wrong with the first member that does not join. -/
theorem findSome?_memberFault? {found : PoolStatistics} (ms : List MemberStatus) :
    ms.findSome? (memberFault? id found) =
      match ms.mapM (member id (memberIndex found)) with
      | .error e => some e
      | .ok _ => none := by
  induction ms with
  | nil => rfl
  | cons m ms ih =>
    rw [List.findSome?_cons, memberFault?_eq, List.mapM_cons]
    cases member id (memberIndex found) m with
    | error e => rfl
    | ok r =>
      dsimp only
      rw [ih]
      cases ms.mapM (member id (memberIndex found)) with
      | error e => rfl
      | ok rs => rfl

theorem obeys_pool {x : PoolStatus} (hj : Joining filters start id status statistics joined h)
    (hg : Going filters .balancers start) (hparts : status.parts = joined ++ .pool x :: parts) :
    TakesTurns filters h (pool id (poolIndex statistics) x) fun h' _ =>
      Joining filters start id status statistics (joined ++ [.pool x]) h' := by
  refine obeys_require_then (fun path hpath => ?_) fun hnone => .inl ?_
  · have hrequests : BalancerPart.requests (.pool x) = [.pool (lastSegment path)] :=
      PoolStatus.requests_of_path hpath
    refine hj.obeys_ask hg hparts hpath hrequests fun settings hfault => ?_
    refine obeys_require_then (fun found hfound => ?_) fun hnone => .inl ?_
    · rw [poolIndex, Index.find?_ofList] at hfound
      -- the fault of the part is the first one among its members
      have hmembers : BalancerPart.fault? filters.virtualServer id statistics path (.pool x)
          ⟨.pool (lastSegment path), .ok settings⟩ =
            x.members.findSome? (memberFault? id found) := by
        rw [BalancerPart.fault?, hfound]
      rw [findSome?_memberFault?] at hmembers
      refine obeys_ofExcept_then (fun members hok => obeys_pure (hj.next ?_))
        fun e herror => .inl ?_
      · rw [hok] at hmembers
        exact ⟨⟨settings, rfl⟩, hrequests, path, hpath, hmembers⟩
      · rw [herror] at hmembers
        rw [hfault, hmembers]
        rfl
    · rw [poolIndex, Index.find?_ofList] at hnone
      rw [hfault, BalancerPart.fault?, hnone]
      rfl
  · rw [hj.fault? hparts, partsFault?, show BalancerPart.path? (.pool x) = none from hnone]
    rfl

/-- All parts of a load balancer have been joined. -/
theorem Joining.standing (hj : Joining filters start id status statistics status.parts h)
    (hs : Standing filters .balancers done all start) :
    Standing filters .balancers (done ++ [.balancer id]) all h := by
  have hfault : Cycle.fault? filters h = none := hj.fault? (List.append_nil _).symm
  obtain @⟨settings, statuses, page, calls, hstatus, hstatistics, hcalls⟩ := hj
  refine hs.append (.balancerStatus id :: .balancerStatistics id ::
    status.parts.flatMap (·.requests)) ?_ rfl ?_ hfault
  · simp [map_request_of_joined hcalls]
  · refine List.forall_mem_cons.2 ⟨⟨rfl, rfl, rfl⟩, List.forall_mem_cons.2 ⟨⟨rfl, rfl, rfl⟩, ?_⟩⟩
    intro q hq
    obtain ⟨part, -, hq⟩ := List.mem_flatMap.1 hq
    exact (part.of_mem_requests hq).2

/-- The virtual servers of a balancer are joined in the order of its status. -/
theorem obeys_virtualServers (hj : Joining filters start id status statistics [] h)
    (hg : Going filters .balancers start) :
    TakesTurns filters h
      (status.virtualServers.mapM
        (virtualServer? id filters.virtualServer (virtualServerIndex statistics))) fun h' _ =>
        Joining filters start id status statistics
          (status.virtualServers.map .virtualServer) h' := by
  refine obeys_mapM (I := fun before h' =>
    Joining filters start id status statistics (before.map .virtualServer) h') hj ?_
  intro before x rest h' hall hj'
  rw [List.map_append]
  have hparts : status.parts = before.map .virtualServer ++
      .virtualServer x :: (rest.map .virtualServer ++ status.pools.map .pool) := by
    rw [BalancerStatus.parts, hall, List.map_append, List.append_assoc]
    rfl
  exact obeys_virtualServer? hj' hg hparts

/-- The pools of a balancer are joined after its virtual servers. -/
theorem obeys_pools
    (hj : Joining filters start id status statistics (status.virtualServers.map .virtualServer) h)
    (hg : Going filters .balancers start) :
    TakesTurns filters h
      (status.pools.mapM (pool id (poolIndex statistics))) fun h' _ =>
        Joining filters start id status statistics status.parts h' := by
  refine obeys_mapM (I := fun before h' => Joining filters start id status statistics
    (status.virtualServers.map .virtualServer ++ before.map .pool) h') (by simpa using hj) ?_
  intro before x rest h' hall hj'
  rw [List.map_append, ← List.append_assoc]
  have hparts : status.parts = (status.virtualServers.map .virtualServer ++ before.map .pool) ++
      .pool x :: rest.map .pool := by
    rw [BalancerStatus.parts, hall, List.map_append, List.append_assoc]
    rfl
  exact obeys_pool hj' hg hparts

end

/-- What a status says wrong, before the statistics are known. -/
theorem fault?_status {id : String} {settings : Balancer} {statuses : Page BalancerStatus} :
    Cycle.fault? filters
        (h ++ [⟨.balancer id, .ok settings⟩] ++ [⟨.balancerStatus id, .ok statuses⟩]) =
      match statuses.single "load balancer status" id with
      | .error e => some e
      | .ok _ => none := by
  rw [List.append_assoc, List.singleton_append, fault?_opened]
  · rfl
  · exact List.forall_mem_singleton.2 rfl
  · exact List.forall_mem_singleton.2 ⟨_, rfl⟩

theorem fault?_statistics {id : String} {settings : Balancer} {statuses : Page BalancerStatus}
    {status : BalancerStatus} {page : Page BalancerStatistics} {e : ScrapeError}
    (hstatus : statuses.single "load balancer status" id = .ok status)
    (hpage : page.single "load balancer statistics" id = .error e) :
    Cycle.fault? filters
        (h ++ [⟨.balancer id, .ok settings⟩] ++ [⟨.balancerStatus id, .ok statuses⟩] ++
          [⟨.balancerStatistics id, .ok page⟩]) = some e := by
  rw [List.append_assoc, List.append_assoc, List.singleton_append, List.singleton_append,
    fault?_opened]
  · unfold balancerFault?
    dsimp only
    rw [hstatus]
    dsimp only
    rw [hpage]
  · exact List.forall_mem_cons.2 ⟨rfl, List.forall_mem_singleton.2 rfl⟩
  · exact List.forall_mem_cons.2 ⟨⟨_, rfl⟩, List.forall_mem_singleton.2 ⟨_, rfl⟩⟩

/-- A balancer is fetched after those before it. -/
theorem obeys_balancer {id : String} (hs : Standing filters .balancers done all h)
    (hnext : done ++ [.balancer id] <+: all) :
    TakesTurns filters h (balancer filters.virtualServer id) fun h' _ =>
      Standing filters .balancers (done ++ [.balancer id]) all h' := by
  -- the calls one after the other, each with what is known before it
  have hg₀ := hs.toGoing
  refine obeys_ask_then hg₀ rfl rfl (hs.named_next rfl hnext) fun settings => ?_
  have hg₁ := hg₀.answered (q := .balancer id) rfl rfl settings
  refine obeys_ask_then hg₁ rfl rfl (.document rfl) fun statuses => ?_
  refine obeys_ofExcept_then (fun status hstatus => ?_) fun e herror => .inl ?_
  · have hg₂ : Going filters .balancers
        (h ++ [⟨.balancer id, .ok settings⟩] ++ [⟨.balancerStatus id, .ok statuses⟩]) :=
      hg₁.append (List.forall_mem_singleton.2 rfl) (by rw [fault?_status, hstatus])
    refine obeys_ask_then hg₂ rfl rfl (.document rfl) fun page => ?_
    refine obeys_ofExcept_then (fun statistics hstatistics => ?_) fun e herror => .inl ?_
    -- from here on the parts are joined one by one
    · have hj : Joining filters h id status statistics []
          (h ++ [⟨.balancer id, .ok settings⟩] ++ [⟨.balancerStatus id, .ok statuses⟩] ++
            [⟨.balancerStatistics id, .ok page⟩]) := by
        rw [List.append_assoc, List.append_assoc]
        exact .intro (single_eq_ok.1 hstatus) (single_eq_ok.1 hstatistics) .nil
      refine (obeys_virtualServers hj hg₀).bind fun h₁ _ hj => ?_
      refine (obeys_pools hj hg₀).bind fun h₂ _ hj => ?_
      exact obeys_log_then (obeys_pure (hj.standing hs))
    · exact fault?_statistics hstatus herror
  · rw [fault?_status, herror]

/-! ## Gateways -/

/-- A gateway is fetched after those before it. -/
theorem obeys_gateway {kind : GatewayKind} {g : Gateway}
    (hs : Standing filters (.gateways kind) done all h)
    (hnext : done ++ [.gatewayState kind g.id] <+: all) :
    TakesTurns filters h (gateway kind g) fun h' _ =>
      Standing filters (.gateways kind) (done ++ [.gatewayState kind g.id]) all h' := by
  refine obeys_ask_then hs.toGoing rfl rfl (hs.named_next rfl hnext) fun state => ?_
  refine obeys_log_then (obeys_pure ?_)
  exact hs.append [] rfl rfl (List.forall_mem_nil _) (fault?_of_not_isPart rfl)

/-! ## Lists of resources -/

/-- Going through all resources that a stage has named. -/
theorem obeys_resources {σ α : Type} {f : σ → Fetch α} {first : σ → Request} {xs : List σ}
    (hs : Standing filters stage [] (xs.map first) h)
    (hf : ∀ done x h, Standing filters stage done (xs.map first) h →
      done ++ [first x] <+: xs.map first →
      TakesTurns filters h (f x) fun h' _ =>
        Standing filters stage (done ++ [first x]) (xs.map first) h') :
    TakesTurns filters h (xs.mapM f) fun h' _ =>
      Standing filters stage (xs.map first) (xs.map first) h' := by
  refine obeys_mapM (I := fun before h' =>
    Standing filters stage (before.map first) (xs.map first) h') hs ?_
  intro before x rest h' hall hs'
  rw [List.map_append]
  refine hf _ x h' hs' ⟨rest.map first, ?_⟩
  rw [hall, List.map_append, List.map_cons, List.append_assoc, List.singleton_append]

/-! ## Listings -/

/-- A walk has asked for some pages and has kept what they name. -/
structure Walking (filters : Filters) (l : Listing) (start : List Call) (w : Walk l.Item)
    (h : List Call) : Prop where
  pages : ∃ pages, h = start ++ pages ∧ ∀ c ∈ pages, c.request.stage = l.stage ∧ c.request.isPage
  faultless : fault? filters h = none
  opened_eq : opened l.stage h = []
  named_eq : named filters l.stage h = w.kept.map l.detail
  named : Named filters h (.page l w.cursor)

/-- A walk goes through calls of its own stage only, after those of the earlier stages. -/
theorem Walking.going {l : Listing} {start : List Call} {w : Walk l.Item}
    (hw : Walking filters l start w h) (hpast : Past filters l.stage start) :
    Going filters l.stage h := by
  obtain ⟨pages, rfl, hpages⟩ := hw.pages
  have hstart : Going filters l.stage start :=
    ⟨hpast.begun, hpast.faultless, fun c hc => Nat.le_of_lt (hpast.stages c hc)⟩
  exact hstart.append (fun c hc => (hpages c hc).1) hw.faultless

theorem Walking.inTurn {l : Listing} {start : List Call} {w : Walk l.Item}
    (hw : Walking filters l start w h) (hpast : Past filters l.stage start) :
    InTurn filters h (.page l w.cursor) := by
  have hg := hw.going hpast
  obtain ⟨pages, rfl, hpages⟩ := hw.pages
  refine ⟨hg.faultless, iff_of_false (by rintro ⟨⟩) hg.begun, ?_, fun _ => ?_, hw.named⟩
  · rw [Request.stage_page]
    exact hg.stages
  · rw [Request.stage_page]
    -- the calls of earlier stages are no calls of this one
    refine List.forall_mem_append.2 ⟨fun c hc he => ?_, fun c hc _ => (hpages c hc).2⟩
    have hlt := hpast.stages c hc
    rw [he] at hlt
    exact absurd hlt (Nat.lt_irrefl _)

/-- A walk after a page. -/
theorem Walking.answered {l : Listing} {start : List Call} {w : Walk l.Item}
    (hw : Walking filters l start w h) (page : Page l.Item) :
    let h' := h ++ [⟨.page l w.cursor, .ok page⟩]
    (∃ pages, h' = start ++ pages ∧ ∀ c ∈ pages, c.request.stage = l.stage ∧ c.request.isPage) ∧
      Cycle.fault? filters h' = none ∧ opened l.stage h' = [] ∧
      Cycle.named filters l.stage h' = (w.advance (l.accepts filters) page).kept.map l.detail := by
  obtain ⟨pages, rfl, hpages⟩ := hw.pages
  refine ⟨⟨_, List.append_assoc _ _ _, ?_⟩, fault?_of_not_isPart rfl, ?_, ?_⟩
  · exact List.forall_mem_append.2
      ⟨hpages, List.forall_mem_singleton.2 ⟨Request.stage_page l w.cursor, rfl⟩⟩
  · rw [opened_append, hw.opened_eq]
    exact List.filter_eq_nil_iff.2 (List.forall_mem_singleton.2 (by simp [Request.opens?]))
  · rw [named_append, hw.named_eq, named_page, ← List.map_append, Walk.advance_eq]

/-- A listing is fetched page by page, and then its objects stand to be fetched. -/
theorem obeys_walk_listing {l : Listing} (hpast : Past filters l.stage h) :
    TakesTurns filters h (walk l (l.accepts filters)) fun h' kept =>
      Standing filters l.stage [] (kept.map l.detail) h' := by
  -- the invariant of the walk: so far only pages of this listing have been asked for in its stage
  have hothers : ∀ c ∈ h, c.request.stage ≠ l.stage := by
    intro c hc he
    have hlt := hpast.stages c hc
    rw [he] at hlt
    exact Nat.lt_irrefl _ hlt
  refine obeys_walk (Walking filters l h) ?_ (fun w h hw => hw.inTurn hpast)
    (fun w h e _ => .inl fault?_error) ?_
  · exact ⟨⟨[], (List.append_nil h).symm, List.forall_mem_nil _⟩, hpast.faultless,
      opened_eq_nil hothers, named_listing_eq_nil hothers, .firstPage hothers⟩
  · intro w h' page hw
    obtain ⟨hpages, hfault, hopened, hnamed⟩ := hw.answered page
    rw [Walk.take_eq]
    cases hnext : (w.advance (l.accepts filters) page).cursor with
    | some next =>
      rw [Option.isSome_some, if_pos rfl]
      refine ⟨hpages, hfault, hopened, hnamed, ?_⟩
      rw [hnext]
      exact .nextPage hnext
    | none =>
      rw [Option.isSome_none, if_neg Bool.false_ne_true]
      have hend : Going filters l.stage (h' ++ [⟨.page l w.cursor, .ok page⟩]) :=
        (hw.going hpast).append (List.forall_mem_singleton.2 (Request.stage_page l w.cursor)) hfault
      exact ⟨hend, hopened, hnamed⟩

/-! ## The cycle -/

theorem obeys_cluster :
    TakesTurns filters [] cluster fun h' ids =>
      Standing filters .nodes [] (ids.map .nodeStatus) h' := by
  have hturn : InTurn filters [] .clusterStatus := by
    refine ⟨rfl, iff_of_true rfl rfl, List.forall_mem_nil _, fun _ => List.forall_mem_nil _, ?_⟩
    exact .cluster
  refine Obeys.bind (obeys_ask (Q := fun h' status => h' = [⟨.clusterStatus, .ok status⟩]) hturn
    (fun status => rfl) fun e => .inl fault?_error) ?_
  rintro _ status rfl
  refine obeys_log_then (obeys_publish_then (obeys_pure ⟨⟨?_, ?_, ?_⟩, rfl, ?_⟩))
  · simp
  · rfl
  · exact List.forall_mem_singleton.2 (Nat.zero_le _)
  · exact named_clusterStatus

theorem obeys_nodes {ids : List String}
    (hs : Standing filters .nodes [] (ids.map .nodeStatus) h) :
    TakesTurns filters h (nodes ids) fun h' _ => Past filters .balancers h' := by
  refine (obeys_resources hs fun done id h hs hnext => obeys_node hs hnext).bind ?_
  intro h' records hs'
  refine obeys_forM_log_then (obeys_publish_then ?_)
  split
  · next chain _ => exact .inr ⟨hs'.faultless, chain, rfl⟩
  · exact obeys_pure (hs'.past (by decide))

theorem obeys_balancers (hpast : Past filters .balancers h) :
    TakesTurns filters h (balancers filters) fun h' _ =>
      Past filters (.gateways .tier1) h' := by
  refine (obeys_walk_listing (l := .balancers) hpast).bind fun h₁ listed hs => ?_
  refine obeys_log_then ?_
  refine (obeys_resources hs fun done b h hs hnext => obeys_balancer hs hnext).bind ?_
  intro h₂ records hs'
  exact obeys_publish_then (obeys_pure (hs'.past (by decide)))

theorem obeys_gateways {kind : GatewayKind} (hpast : Past filters (.gateways kind) h) :
    TakesTurns filters h (gateways filters kind) fun h' _ =>
      Going filters (.gateways kind) h' := by
  refine (obeys_walk_listing (l := .gateways kind) hpast).bind fun h₁ listed hs => ?_
  refine obeys_log_then ?_
  refine (obeys_resources hs fun done g h hs hnext => obeys_gateway hs hnext).bind ?_
  intro h₂ records hs'
  exact obeys_forM_log_then (obeys_publish_then (obeys_pure hs'.toGoing))

/-- The calls of a cycle take their turns. -/
theorem obeys_cycle (filters : Filters) :
    TakesTurns filters [] (cycle filters) fun h' _ =>
      Going filters (.gateways .tier0) h' := by
  refine obeys_cluster.bind fun h₁ ids hs => ?_
  refine (obeys_nodes hs).bind fun h₂ _ hpast => ?_
  refine (obeys_balancers hpast).bind fun h₃ _ hpast => ?_
  refine (obeys_gateways hpast).bind fun h₄ _ hg => ?_
  exact obeys_gateways (hg.past (by decide))

section

variable {cs : List Call} {es : List Script.Effect}
  {p : Script.Suspension (Except ScrapeError Unit)}

theorem inTurn_of_call {before after : List Call} {c : Call}
    (h : Script.Reaches (cycle filters).run (before ++ c :: after) es p) :
    InTurn filters before c.request := by
  obtain ⟨es', resume, hbefore⟩ := h.before
  exact (Script.Obeys.reaches (obeys_cycle filters) hbefore).2 c.request resume rfl

/-- A cycle does not go on after a fault. -/
theorem eq_done_of_fault (h : Script.Reaches (cycle filters).run cs es p) {e : ScrapeError}
    (he : fault? filters cs = some e) : p = .done (.error e) := by
  obtain ⟨hdone, hasking⟩ := Script.Obeys.reaches (obeys_cycle filters) h
  rw [List.nil_append] at hdone hasking
  cases p with
  | asking request resume =>
    rw [(hasking request resume rfl).faultless] at he
    cases he
  | done outcome =>
    have hend := hdone outcome rfl
    cases outcome with
    | ok _ =>
      rw [show fault? filters cs = none from hend.faultless] at he
      cases he
    | error e' =>
      rcases hend with hend | ⟨hnone, -⟩
      · rw [hend] at he
        cases he
        rfl
      · rw [hnone] at he
        cases he

/-- A cycle that has ended has asked for the cluster once, and before anything else. -/
theorem clusterStatus_first {outcome : Except ScrapeError Unit}
    (h : Script.Reaches (cycle filters).run cs es (.done outcome)) :
    ∃ answer later, cs = ⟨.clusterStatus, answer⟩ :: later ∧
      ∀ c ∈ later, c.request ≠ .clusterStatus := by
  cases cs with
  | nil =>
    -- a cycle begins with a request
    cases (Script.reaches_nil.1 h).2
  | cons c later =>
    obtain ⟨request, answer⟩ := c
    have hfirst : InTurn filters [] (Call.mk request answer).request := inTurn_of_call h
    obtain rfl : request = .clusterStatus := hfirst.first.2 rfl
    refine ⟨answer, later, rfl, fun c hc he => ?_⟩
    obtain ⟨before, after, rfl⟩ := List.append_of_mem hc
    have hlater : InTurn filters (⟨.clusterStatus, answer⟩ :: before) c.request := inTurn_of_call h
    cases hlater.first.1 he

end

/-- Whatever the manager answers, each request of a cycle is made in its turn, and so is the one
that it waits for; the first fault ends the cycle with that very error, and without a fault only a
broken chain of certificates does. -/
theorem calls_are_made_in_turn {filters : Filters} {cs : List Call} {es : List Script.Effect}
    {p : Script.Suspension (Except ScrapeError Unit)}
    (h : Script.Reaches (cycle filters).run cs es p) :
    (∀ before c after, cs = before ++ c :: after → InTurn filters before c.request) ∧
    (∀ request resume, p = .asking request resume → InTurn filters cs request) ∧
    (∀ before request e after, cs = before ++ ⟨request, .error e⟩ :: after →
      after = [] ∧ p = .done (.error (.api e))) ∧
    (∀ before after e, cs = before ++ after → fault? filters before = some e →
      after = [] ∧ p = .done (.error e)) ∧
    ∀ outcome, p = .done outcome →
      (∃ answer later, cs = ⟨.clusterStatus, answer⟩ :: later ∧
        ∀ c ∈ later, c.request ≠ .clusterStatus) ∧
      ∀ e, outcome = .error e → fault? filters cs = some e ∨ ∃ chain, e = .certificate chain := by
  obtain ⟨hdone, hasking⟩ := Script.Obeys.reaches (obeys_cycle filters) h
  rw [List.nil_append] at hdone hasking
  -- a fault leaves nothing that is in turn, so it comes last and is what the cycle ends with
  have hfault : ∀ before after e, cs = before ++ after → fault? filters before = some e →
      after = [] ∧ p = .done (.error e) := by
    rintro before after e rfl he
    cases after with
    | cons c after =>
      rw [(inTurn_of_call h).faultless] at he
      cases he
    | nil =>
      rw [List.append_nil] at h
      exact ⟨rfl, eq_done_of_fault h he⟩
  refine ⟨?_, hasking, ?_, hfault, ?_⟩
  · rintro before c after rfl
    exact inTurn_of_call h
  · intro before request e after hcs
    rw [List.append_cons] at hcs
    exact hfault _ after _ hcs fault?_error
  · rintro outcome rfl
    refine ⟨clusterStatus_first h, ?_⟩
    rintro e rfl
    rcases hdone _ rfl with hend | ⟨-, hchain⟩
    · exact .inl hend
    · exact .inr hchain

/-- A virtual server without statistics. -/
theorem unresolved_virtualServer_ends_cycle :
    let status : BalancerStatus :=
      ⟨none, none, none, none, none, none, [⟨some "/lb/v", none, none⟩, ⟨none, none, none⟩], []⟩
    let before : List Call :=
      [⟨.clusterStatus, .ok ⟨⟨none⟩, ⟨none, [], []⟩⟩⟩,
        ⟨.page .balancers none, .ok ⟨[⟨"b", none, none, none, none, none⟩], none, none⟩⟩,
        ⟨.balancer "b", .ok ⟨"b", none, none, none, none, none⟩⟩,
        ⟨.balancerStatus "b", .ok ⟨[status], none, none⟩⟩,
        ⟨.balancerStatistics "b", .ok ⟨[⟨none, none, [], []⟩], none, none⟩⟩]
    let c : Call := ⟨.virtualServer "v", .ok ⟨"v", none, none, none, none, none⟩⟩
    ∃ es, Script.Reaches (cycle .none).run (before ++ [c]) es
        (.done (.error (.unresolved "virtual server statistics" "/lb/v" "b"))) ∧
      InTurn .none before c.request ∧
      fault? .none (before ++ [c]) =
        some (.unresolved "virtual server statistics" "/lb/v" "b") := by
  intro status before c
  -- the calls in their order, up to the one behind which the cycle ends
  have h : Script.Reaches (cycle .none).run (before ++ [c]) _
      (.done (.error (.unresolved "virtual server statistics" "/lb/v" "b"))) :=
    .onward rfl _ (.onward rfl _ (.onward rfl _ (.onward rfl _ (.onward rfl _ (.onward rfl _
      (.here _))))))
  obtain ⟨hturn, -, -, -, hend⟩ := calls_are_made_in_turn h
  obtain ⟨-, hfault⟩ := hend _ rfl
  refine ⟨_, h, hturn before c [] rfl, ?_⟩
  rcases hfault _ rfl with hfault | ⟨chain, hchain⟩
  · exact hfault
  · cases hchain

end FabricGauges.Cycle
