import FabricGauges.Cycle.Basic
import FabricGauges.Proofs.Script.Discipline

/-!
# Stages of a cycle

Every request belongs to one stage. A stage asks for everything that it needs and only then
publishes, once, what it has gathered; after that it asks for nothing more. It fails at the first
error of the manager, or because what it has been told does not join, which is for load balancers
only, and then it has published nothing. A broken chain of certificates is the exception: the stage
of the nodes reports it after it has published.

Every stage is cut in two here. The first part only fetches, and `Fetch.Gathers` is what it obeys.
The second part is `Fetch.conclude`, which asks for nothing. `Cycle.gather` is what a stage makes of
its answers, whenever it is published.
-/

namespace FabricGauges

/-! ## Requests and errors of a stage -/

/-- The stage that a request belongs to. -/
def Request.stage : Request → Stage
  | clusterStatus => .cluster
  | nodeConfig _ | nodeStatus _ | interfaces _ | interface _ _ | interfaceCounters _ _ => .nodes
  | page .balancers _ => .balancers
  | page (.gateways kind) _ => .gateways kind
  | balancer _ | balancerStatus _ | balancerStatistics _ | virtualServer _ | pool _ => .balancers
  | gatewayState kind _ => .gateways kind

/-- The requests of a stage. -/
def Request.Of (stage : Stage) (r : Request) : Prop := r.stage = stage

/-- The requests of a stage that are about one resource. -/
def Request.Detail (stage : Stage) (r : Request) : Prop := r.Of stage ∧ r.isPage = false

/-- What the manager has said does not join. -/
def ScrapeError.IsJoin : ScrapeError → Prop
  | notFound _ _ | tooManyResults _ _ _ | unresolved _ _ _ | missingKey _ _ => True
  | api _ | certificate _ => False

/-- The last of the calls belongs to the stage, and the error comes from it: the call has failed,
after all others had succeeded, or it has succeeded and the answers do not join. -/
def FailedIn (cs : List Call) (e : ScrapeError) (stage : Stage) : Prop :=
  ∃ before c, cs = before ++ [c] ∧ (∀ c' ∈ before, c'.Succeeded) ∧ c.request.stage = stage ∧
    ((∃ error, c.answer = .error error ∧ e = .api error) ∨ (c.Succeeded ∧ e.IsJoin))

/-- Calls that succeeded may come before those of a stage that failed. -/
theorem FailedIn.append {cs cs' : List Call} {e : ScrapeError} {stage : Stage}
    (h : FailedIn cs' e stage) (hcs : ∀ c ∈ cs, c.Succeeded) : FailedIn (cs ++ cs') e stage := by
  obtain ⟨before, c, rfl, hbefore, hc⟩ := h
  refine ⟨cs ++ before, c, (List.append_assoc _ _ _).symm, ?_, hc⟩
  exact List.forall_mem_append.2 ⟨hcs, hbefore⟩

/-- Only the stage of the last call can have failed. -/
theorem FailedIn.stage_unique {cs : List Call} {e : ScrapeError} {stage stage' : Stage}
    (h : FailedIn cs e stage) (h' : FailedIn cs e stage') : stage = stage' := by
  obtain ⟨before, c, rfl, -, rfl, -⟩ := h
  obtain ⟨before', c', hcs, -, rfl, -⟩ := h'
  -- both stages are that of the last call
  obtain ⟨-, hc⟩ := List.append_inj' hcs rfl
  rw [List.singleton_inj.1 hc]

/-- The error of a cycle that failed in a stage is no broken chain of certificates. -/
theorem FailedIn.ne_certificate {cs : List Call} {e : ScrapeError} {stage : Stage}
    (h : FailedIn cs e stage) (broken : BrokenChain) : e ≠ .certificate broken := by
  intro he
  subst he
  obtain ⟨before, c, -, -, -, ⟨error, -, he⟩ | ⟨-, hjoin⟩⟩ := h
  · cases he
  · exact hjoin

namespace Fetch

variable {α : Type} {Q : Stage → Prop} {E : ScrapeError → Prop}

/-! ## Fetching records -/

/-- Interfaces are asked for in the stage of the nodes. -/
theorem confined_interface (node id : String) :
    Confined (Request.Detail .nodes) Q (interface node id) :=
  .bind (confined_ask ⟨rfl, rfl⟩) fun _ => .bind (confined_ask ⟨rfl, rfl⟩) fun _ => confined_pure _

theorem confined_node (id : String) : Confined (Request.Detail .nodes) Q (node id) :=
  .bind (confined_ask ⟨rfl, rfl⟩) fun _ => .bind (confined_ask ⟨rfl, rfl⟩) fun _ =>
    .bind (confined_ask ⟨rfl, rfl⟩) fun _ =>
      .bind (confined_mapM (fun _ => confined_interface id _) _) fun _ =>
        .bind (confined_log _) fun _ => confined_pure _

/-- Virtual servers are asked for in the stage of the load balancers. -/
theorem confined_virtualServer? (balancer : String) (allowed : AllowList)
    (statistics : Index String VirtualServerStatistics) (status : VirtualServerStatus) :
    Confined (Request.Detail .balancers) Q (virtualServer? balancer allowed statistics status) := by
  refine .bind (confined_require _ _) fun path => .bind (confined_ask ⟨rfl, rfl⟩) fun settings => ?_
  split
  · exact .bind (confined_require _ _) fun _ => confined_pure _
  · exact .bind (confined_log _) fun _ => confined_pure _

theorem confined_pool (balancer : String) (statistics : Index String PoolStatistics)
    (status : PoolStatus) :
    Confined (Request.Detail .balancers) Q (pool balancer statistics status) :=
  .bind (confined_require _ _) fun _ => .bind (confined_ask ⟨rfl, rfl⟩) fun _ =>
    .bind (confined_require _ _) fun _ => .bind (confined_ofExcept _) fun _ => confined_pure _

theorem confined_balancer (allowed : AllowList) (id : String) :
    Confined (Request.Detail .balancers) Q (balancer allowed id) :=
  .bind (confined_ask ⟨rfl, rfl⟩) fun _ => .bind (confined_ask ⟨rfl, rfl⟩) fun _ =>
    .bind (confined_ofExcept _) fun _ => .bind (confined_ask ⟨rfl, rfl⟩) fun _ =>
      .bind (confined_ofExcept _) fun _ =>
        .bind (confined_mapM (confined_virtualServer? id allowed _) _) fun _ =>
          .bind (confined_mapM (confined_pool id _) _) fun _ =>
            .bind (confined_log _) fun _ => confined_pure _

/-- The state of a gateway is asked for in the stage of its kind. -/
theorem confined_gateway (kind : GatewayKind) (g : Gateway) :
    Confined (Request.Detail (.gateways kind)) Q (gateway kind g) :=
  .bind (confined_ask ⟨rfl, rfl⟩) fun _ => .bind (confined_log _) fun _ => confined_pure _

theorem prompt_interface (node id : String) : Prompt E (interface node id) :=
  (prompt_ask _).bind fun _ => (prompt_ask _).bind fun _ => prompt_pure _

/-- The records of nodes are not joined, so they can only fail with the manager. -/
theorem prompt_node (id : String) : Prompt E (node id) :=
  (prompt_ask _).bind fun _ => (prompt_ask _).bind fun _ => (prompt_ask _).bind fun _ =>
    (prompt_mapM (fun _ => prompt_interface id _) _).bind fun _ =>
      (prompt_log _).bind fun _ => prompt_pure _

/-- A page without a single result cannot be joined. -/
theorem isJoin_of_single {p : Page α} {kind id : String} {e : ScrapeError}
    (h : p.single kind id = .error e) : e.IsJoin := by
  unfold Page.single at h
  split at h <;> cases h <;> trivial

/-- A member that is not fetched cannot be joined. -/
theorem isJoin_of_member {balancer : String} {statistics : Index String MemberStatistics}
    {status : MemberStatus} {e : ScrapeError} (h : member balancer statistics status = .error e) :
    e.IsJoin := by
  unfold member at h
  split at h
  · cases h
    trivial
  · split at h <;> cases h
    trivial

/-- An error of a list of results is the error of one of them. -/
theorem error_of_mapM {σ : Type} {f : σ → Except ScrapeError α} {ss : List σ} {e : ScrapeError}
    (h : ss.mapM f = .error e) : ∃ s ∈ ss, f s = .error e := by
  induction ss with
  | nil => cases h
  | cons s ss ih =>
    rw [List.mapM_cons] at h
    -- the first error ends the list, so it is that of the first element or of the rest
    cases hs : f s with
    | error e' =>
      rw [hs] at h
      cases h
      exact ⟨s, List.mem_cons_self, hs⟩
    | ok a =>
      rw [hs] at h
      cases hrest : ss.mapM f with
      | error e' =>
        replace h : (ss.mapM f >>= fun as => .ok (a :: as)) = .error e := h
        rw [hrest] at h
        cases h
        obtain ⟨t, ht, he⟩ := ih hrest
        exact ⟨t, List.mem_cons_of_mem _ ht, he⟩
      | ok as =>
        replace h : (ss.mapM f >>= fun as => .ok (a :: as)) = .error e := h
        rw [hrest] at h
        cases h

/-- A virtual server fails with the error of a call or because it cannot be joined. -/
theorem prompt_virtualServer? (balancer : String) (allowed : AllowList)
    (statistics : Index String VirtualServerStatistics) (status : VirtualServerStatus) :
    Prompt ScrapeError.IsJoin (virtualServer? balancer allowed statistics status) := by
  refine (prompt_require trivial _).bind fun path => (prompt_ask _).bind fun settings => ?_
  split
  · exact (prompt_require trivial _).bind fun _ => prompt_pure _
  · exact (prompt_log _).bind fun _ => prompt_pure _

/-- So does a pool. -/
theorem prompt_pool (balancer : String) (statistics : Index String PoolStatistics)
    (status : PoolStatus) : Prompt ScrapeError.IsJoin (pool balancer statistics status) := by
  refine (prompt_require trivial _).bind fun path => (prompt_ask _).bind fun settings =>
    (prompt_require trivial _).bind fun found => ?_
  refine (prompt_ofExcept fun e he => ?_).bind fun _ => prompt_pure _
  obtain ⟨m, -, hm⟩ := error_of_mapM he
  exact isJoin_of_member hm

/-- So does a load balancer. -/
theorem prompt_balancer (allowed : AllowList) (id : String) :
    Prompt ScrapeError.IsJoin (balancer allowed id) :=
  (prompt_ask _).bind fun _ => (prompt_ask _).bind fun _ =>
    (prompt_ofExcept fun _ => isJoin_of_single).bind fun _ => (prompt_ask _).bind fun _ =>
      (prompt_ofExcept fun _ => isJoin_of_single).bind fun _ =>
        (prompt_mapM (prompt_virtualServer? id allowed _) _).bind fun _ =>
          (prompt_mapM (prompt_pool id _) _).bind fun _ =>
            (prompt_log _).bind fun _ => prompt_pure _

theorem prompt_gateway (kind : GatewayKind) (g : Gateway) : Prompt E (gateway kind g) :=
  (prompt_ask _).bind fun _ => (prompt_log _).bind fun _ => prompt_pure _

theorem Confined.of_detail {stage : Stage} {f : Fetch α} (h : Confined (Request.Detail stage) Q f) :
    Confined (Request.Of stage) Q f := Script.Confined.mono h (fun _ hr => hr.1) fun _ hq => hq

/-! ## Fetching and concluding -/

/-- A script that fetches what a stage needs. It publishes nothing, and it cannot fail before it has
asked. -/
structure Gathers (stage : Stage) (f : Fetch α) : Prop where
  confined : Confined (Request.Of stage) (fun _ => False) f
  prompt : Prompt ScrapeError.IsJoin f
  asks_first : ∀ es e, ¬Runs f [] es (.error e)

/-- Without a join, only the manager can make a script fail. -/
theorem Gathers.of_prompt {stage : Stage} {f : Fetch α}
    (confined : Confined (Request.Of stage) (fun _ => False) f)
    (prompt : Prompt (fun _ => False) f) : Gathers stage f := by
  refine ⟨confined, Script.Prompt.mono prompt fun _ h => h.elim, fun es e h => ?_⟩
  rcases prompt.runs h with ⟨-, hown⟩ | ⟨before, request, error, hcs, -⟩
  · exact hown e rfl
  · exact absurd hcs.symm (by simp)

/-- What gathers the records of a stage fails in that stage. -/
theorem Gathers.failedIn {stage : Stage} {f : Fetch α} (hf : Gathers stage f) {cs : List Call}
    {es : List Script.Effect} {e : ScrapeError} (h : Runs f cs es (.error e)) :
    FailedIn cs e stage := by
  obtain ⟨hcalls, -⟩ := hf.confined.runs h
  rcases hf.prompt.runs h with ⟨hsucceeded, hown⟩ | ⟨before, request, error, rfl, hbefore, he⟩
  · -- the join comes after an answer, and the last one was that of the last call
    rcases List.eq_nil_or_concat cs with rfl | ⟨before, c, rfl⟩
    · exact absurd h (hf.asks_first es e)
    · rw [List.concat_eq_append, List.forall_mem_append] at hsucceeded
      rw [List.concat_eq_append] at hcalls ⊢
      have hc : c ∈ before ++ [c] := List.mem_append_right _ List.mem_cons_self
      exact ⟨before, c, rfl, hsucceeded.1, hcalls c hc,
        .inr ⟨hsucceeded.2 c List.mem_cons_self, hown e rfl⟩⟩
  · obtain rfl := Except.error.inj he
    exact ⟨before, _, rfl, hbefore, hcalls _ (List.mem_append_right _ List.mem_cons_self),
      .inl ⟨error, rfl, rfl⟩⟩

/-- Logs, publishes a stage and ends with a verdict. -/
def conclude (events : List Event) (stage : Stage) (samples : List Sample)
    (verdict : Except ScrapeError α) : Fetch α := do
  events.forM log
  publish stage samples
  ofExcept verdict

/-- A script that asks for nothing runs to its end at once. -/
theorem Confined.silent {f : Fetch α} (h : Confined (fun _ => False) Q f) {cs : List Call}
    {es : List Script.Effect} {p : Script.Suspension (Except ScrapeError α)}
    (hr : Script.Reaches f.run cs es p) : cs = [] ∧ ∃ r, p = .done r ∧ Runs f cs es r := by
  obtain ⟨hcalls, -, hwaiting⟩ := Script.Confined.reaches h hr
  refine ⟨List.eq_nil_iff_forall_not_mem.2 hcalls, ?_⟩
  cases p with
  | done r => exact ⟨r, rfl, hr⟩
  | asking request resume => exact (hwaiting request resume rfl).elim

/-- The end of a stage publishes its samples, makes no call and comes to its verdict. -/
theorem reaches_conclude {events : List Event} {stage : Stage} {samples : List Sample}
    {verdict : Except ScrapeError α} {cs : List Call} {es : List Script.Effect}
    {p : Script.Suspension (Except ScrapeError α)}
    (h : Script.Reaches (conclude events stage samples verdict).run cs es p) :
    cs = [] ∧ Script.published es = [(stage, samples)] ∧ p = .done verdict := by
  have hsilent : Confined (fun _ => False) (fun _ => True)
      (conclude events stage samples verdict) :=
    .bind (confined_forM_log _) fun _ => .bind (confined_publish trivial) fun _ =>
      confined_ofExcept _
  obtain ⟨rfl, r, rfl, hr⟩ := hsilent.silent h
  -- logging and publishing cannot fail, so the verdict is reached
  refine ⟨rfl, ?_⟩
  rcases runs_bind.1 hr with ⟨e, -, hlog⟩ | ⟨_, _, es₁, es₂, _, -, rfl, hlog, hrest⟩
  · cases (runs_forM_log.1 hlog).2.2
  · rcases runs_bind.1 hrest with ⟨e, -, hpublish⟩ | ⟨_, _, es₃, es₄, _, -, rfl, hpublish, hend⟩
    · cases (runs_publish.1 hpublish).2.2
    · obtain ⟨-, rfl, -⟩ := runs_forM_log.1 hlog
      obtain ⟨-, rfl, -⟩ := runs_publish.1 hpublish
      obtain ⟨-, rfl, rfl⟩ := runs_ofExcept.1 hend
      refine ⟨?_, rfl⟩
      rw [Script.published_append, Script.published_map_log]
      rfl

end Fetch

namespace Cycle

open Fetch

/-! ## The stages of the cycle -/

/-- The records of the load balancers that the filters accept. -/
def balancerRecords (filters : Filters) : Fetch (List BalancerRecord) := do
  let listed ← walk .balancers fun b => filters.balancer.includes b.displayName b.id
  log (.balancersListed listed.length)
  listed.mapM fun b => balancer filters.virtualServer b.id

/-- The records of the gateways of a kind that the filters accept. -/
def gatewayRecords (filters : Filters) (kind : GatewayKind) : Fetch (List GatewayRecord) := do
  let listed ← walk (.gateways kind) fun g => (filters.gateways kind).includes g.displayName g.id
  log (.gatewaysListed kind.name listed.length)
  listed.mapM (gateway kind)

/-- What a stage makes of the answers to its requests, given the identifiers of the nodes. -/
def gather (filters : Filters) (ids : List String) : Stage → Fetch (List Sample)
  | .cluster => ClusterStatus.samples <$> ask .clusterStatus
  | .nodes => (·.flatMap NodeRecord.samples) <$> ids.mapM node
  | .balancers => (·.flatMap BalancerRecord.samples) <$> balancerRecords filters
  | .gateways kind => (·.flatMap (GatewayRecord.samples kind)) <$> gatewayRecords filters kind

/-- The verdict on the certificates of some nodes. -/
def verdict (records : List NodeRecord) : Except ScrapeError Unit :=
  match records.findSome? NodeRecord.brokenChain? with
  | some broken => .error (.certificate broken)
  | none => .ok ()

/-- The stage of the cluster is one request and its conclusion. -/
theorem cluster_eq : cluster = ask .clusterStatus >>= fun status =>
    conclude [.clusterFetched status.nodeIds.length] .cluster status.samples
      (.ok status.nodeIds) := rfl

/-- The stage of the nodes fetches every node before its conclusion. -/
theorem nodes_eq (ids : List String) : nodes ids = ids.mapM node >>= fun records =>
    conclude (records.flatMap NodeRecord.warnings) .nodes (records.flatMap NodeRecord.samples)
      (verdict records) := by
  unfold nodes conclude verdict
  refine congrArg _ (funext fun records => ?_)
  cases records.findSome? NodeRecord.brokenChain? <;> rfl

/-- The stage of the load balancers fetches every load balancer before its conclusion. -/
theorem balancers_eq (filters : Filters) :
    balancers filters = balancerRecords filters >>= fun records =>
      conclude [] .balancers (records.flatMap BalancerRecord.samples) (.ok ()) := by
  simp only [balancers, balancerRecords, bind_assoc]
  rfl

/-- A stage of gateways fetches every gateway of its kind before its conclusion. -/
theorem gateways_eq (filters : Filters) (kind : GatewayKind) :
    gateways filters kind = gatewayRecords filters kind >>= fun records =>
      conclude (records.filterMap (GatewayRecord.warning? kind)) (.gateways kind)
        (records.flatMap (GatewayRecord.samples kind)) (.ok ()) := by
  simp only [gateways, gatewayRecords, bind_assoc]
  rfl

theorem gathers_cluster : Gathers .cluster (ask .clusterStatus) :=
  .of_prompt (confined_ask rfl) (prompt_ask _)

theorem gathers_nodes (ids : List String) : Gathers .nodes (ids.mapM node) :=
  .of_prompt (confined_mapM (fun id => (confined_node id).of_detail) ids)
    (prompt_mapM prompt_node ids)

theorem gathers_gateways (filters : Filters) (kind : GatewayKind) :
    Gathers (.gateways kind) (gatewayRecords filters kind) :=
  .of_prompt
    (.bind (confined_walk fun _ => rfl) fun _ => .bind (confined_log _) fun _ =>
      confined_mapM (fun g => (confined_gateway kind g).of_detail) _)
    ((prompt_walk _ _).bind fun _ => (prompt_log _).bind fun _ =>
      prompt_mapM (prompt_gateway kind) _)

theorem gathers_balancers (filters : Filters) : Gathers .balancers (balancerRecords filters) where
  confined := .bind (confined_walk fun _ => rfl) fun _ => .bind (confined_log _) fun _ =>
    confined_mapM (fun b : Balancer => (confined_balancer filters.virtualServer b.id).of_detail) _
  prompt := (prompt_walk _ _).bind fun _ => (prompt_log _).bind fun _ =>
    prompt_mapM (fun b : Balancer => prompt_balancer filters.virtualServer b.id) _
  asks_first es e h := by
    -- a walk asks for its first page before anything else
    obtain ⟨-, hdone⟩ := Script.reaches_nil.1 h
    cases hdone

end Cycle

end FabricGauges
