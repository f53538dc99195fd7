import FabricGauges.Proofs.Cycle.Listed
import FabricGauges.Proofs.Cycle.Order
import FabricGauges.Proofs.Cycle.Record
import FabricGauges.Proofs.Metric.Subject

/-!
# Accepted resources

The allow-lists are looked at in three places: on the pages of a listing, for each kind of gateways
apart, and again when the settings of a virtual server are known. Nothing about a resource that is
left out gets through: it is not asked for, and no sample shows it. Nothing that is accepted gets
lost either: after a cycle that has succeeded, its series are there.
-/

namespace FabricGauges

open Fetch

/-! ## Requests about listed resources -/

/-- The identifier of a listed resource. -/
def Listing.id : (l : Listing) → l.Item → String
  | .balancers, b => b.id
  | .gateways _, g => g.id

/-- The listing of the resource that a request is about, and its identifier. The settings of virtual
servers and pools are not looked up in a listing. -/
def Request.listed? : Request → Option (Listing × String)
  | balancer id | balancerStatus id | balancerStatistics id => some (.balancers, id)
  | gatewayState kind id => some (.gateways kind, id)
  | _ => none

theorem Listing.stage_injective {l l' : Listing} (h : l.stage = l'.stage) : l = l' := by
  cases l <;> cases l' <;> cases h <;> rfl

theorem Request.opens?_of_follows? {r q : Request} (h : r.follows? = some q) :
    r.opens? = none := by
  cases r <;> first | rfl | cases h

theorem BalancerPart.follows?_of_mem_requests {part : BalancerPart} {r : Request}
    (h : r ∈ part.requests) : r.follows? = none := by
  cases part with
  | virtualServer status =>
    obtain ⟨path, -, rfl⟩ := Option.map_eq_some_iff.1 (Option.mem_toList.1 h)
    rfl
  | pool status =>
    obtain ⟨path, -, rfl⟩ := Option.map_eq_some_iff.1 (Option.mem_toList.1 h)
    rfl

namespace Cycle

variable {filters : Filters} {cs : List Call} {es : List Script.Effect}

/-- A resource of a listing that is opened has been accepted on one of its pages. -/
theorem offered_of_opens {l : Listing} {r : Request} (h : Named filters cs r)
    (hr : r.opens? = some l.stage) :
    ∃ x, Offered cs l x ∧ l.accepts filters x ∧ l.detail x = r := by
  cases h with
  | cluster | firstPage _ | nextPage _ => cases hr
  | document follows =>
    rw [Request.opens?_of_follows? follows] at hr
    cases hr
  | interface next =>
    have hmem := next.subset (List.mem_append_right _ List.mem_cons_self)
    rw [(of_mem_interfaceRequests hmem).2.2] at hr
    cases hr
  | part single next =>
    obtain ⟨part, -, hmem⟩ :=
      List.mem_flatMap.1 (next.subset (List.mem_append_right _ List.mem_cons_self))
    rw [(part.of_mem_requests hmem).2.2.2] at hr
    cases hr
  | resource opens next =>
    obtain rfl := Option.some.inj (opens.symm.trans hr)
    have hmem := next.subset (List.mem_append_right _ List.mem_cons_self)
    obtain ⟨c, hc, hnames⟩ := List.mem_flatMap.1 (List.mem_filter.1 hmem).1
    -- the names of the cluster are those of nodes, so it is a page that has named it
    unfold Call.names at hnames
    split at hnames
    · obtain ⟨id, -, rfl⟩ := List.mem_map.1 hnames
      cases l <;> cases hr
    · next l' cursor page =>
      obtain ⟨x, hx, rfl⟩ := List.mem_map.1 hnames
      rw [l'.opens?_detail, Option.some.injEq] at hr
      obtain rfl := Listing.stage_injective hr
      obtain ⟨hx, haccepts⟩ := List.mem_filter.1 hx
      exact ⟨x, ⟨cursor, page, hc, hx⟩, haccepts, rfl⟩
    · cases hnames

/-- A document that follows another one is asked for right after it. -/
theorem eq_concat_of_follows {r q : Request} (h : Named filters cs r) (hr : r.follows? = some q) :
    ∃ before c, cs = before ++ [c] ∧ c.request = q := by
  -- only a request that is named by the call before it follows another; the others begin or
  -- continue a list
  cases h with
  | cluster | firstPage _ | nextPage _ => cases hr
  | resource opens next =>
    rw [Request.opens?_of_follows? hr] at opens
    cases opens
  | interface next =>
    obtain ⟨i, -, hmem⟩ :=
      List.mem_flatMap.1 (next.subset (List.mem_append_right _ List.mem_cons_self))
    unfold interfaceRequests at hmem
    rcases List.mem_cons.1 hmem with rfl | hmem
    · cases hr
    · rw [List.mem_singleton.1 hmem] at hr
      cases hr
  | part single next =>
    obtain ⟨part, -, hmem⟩ :=
      List.mem_flatMap.1 (next.subset (List.mem_append_right _ List.mem_cons_self))
    rw [part.follows?_of_mem_requests hmem] at hr
    cases hr
  | @document before c _ follows =>
    exact ⟨before, c, rfl, Option.some.inj (follows.symm.trans hr)⟩

/-- A cycle waits for a request. -/
def Waits (filters : Filters) (cs : List Call) (r : Request) : Prop :=
  ∃ es resume, Script.Reaches (cycle filters).run cs es (.asking r resume)

theorem Waits.named {r : Request} (h : Waits filters cs r) : Named filters cs r := by
  obtain ⟨es, resume, h⟩ := h
  exact ((Script.Obeys.reaches (obeys_cycle filters) h).2 r resume rfl).named

/-- Before a document that follows another one, the cycle has waited for that. -/
theorem Waits.of_follows {r q : Request} (h : Waits filters cs r) (hr : r.follows? = some q) :
    ∃ before c, cs = before ++ [c] ∧ Waits filters before q := by
  obtain ⟨before, c, rfl, rfl⟩ := eq_concat_of_follows h.named hr
  obtain ⟨es, resume, h⟩ := h
  exact ⟨before, c, rfl, h.before⟩

/-- A listed resource is only asked about if one with its identifier has been accepted. -/
theorem Waits.offered {r : Request} (h : Waits filters cs r) {l : Listing} {id : String}
    (hr : r.listed? = some (l, id)) :
    ∃ x, Offered cs l x ∧ l.accepts filters x ∧ l.id x = id := by
  -- what is asked about a balancer follows the call before it, back to the first one, which the
  -- listing opened
  have hbalancer : ∀ {cs}, Waits filters cs (.balancer id) →
      ∃ x : Balancer, Offered cs .balancers x ∧ Listing.balancers.accepts filters x ∧ x.id = id := by
    intro cs h
    obtain ⟨x, hoffered, haccepts, hdetail⟩ := offered_of_opens (l := .balancers) h.named rfl
    exact ⟨x, hoffered, haccepts, Request.balancer.inj hdetail⟩
  have hstatus : ∀ {cs}, Waits filters cs (.balancerStatus id) →
      ∃ x : Balancer, Offered cs .balancers x ∧ Listing.balancers.accepts filters x ∧ x.id = id := by
    intro cs h
    obtain ⟨before, c, rfl, hbefore⟩ := h.of_follows rfl
    obtain ⟨x, hoffered, hx⟩ := hbalancer hbefore
    exact ⟨x, offered_append.2 (.inl hoffered), hx⟩
  unfold Request.listed? at hr
  split at hr <;> cases hr
  · exact hbalancer h
  · exact hstatus h
  · obtain ⟨before, c, rfl, hbefore⟩ := h.of_follows rfl
    obtain ⟨x, hoffered, hx⟩ := hstatus hbefore
    exact ⟨x, offered_append.2 (.inl hoffered), hx⟩
  · next kind =>
    obtain ⟨x, hoffered, haccepts, hdetail⟩ := offered_of_opens (l := .gateways kind) h.named rfl
    exact ⟨x, hoffered, haccepts, (Request.gatewayState.inj hdetail).2⟩

/-! ## Samples of accepted resources -/

/-- The gateways that have records are those that have been listed and are accepted. -/
theorem mem_settings_of_gatewayRecords {kind : GatewayKind} {records : List GatewayRecord}
    (h : Runs (gatewayRecords filters kind) cs es (.ok records)) {g : Gateway} :
    g ∈ records.map (·.settings) ↔
      (Listing.gateways kind).accepts filters g ∧ Offered cs (.gateways kind) g := by
  obtain ⟨pages, parts, rfl, -, rfl, hgiven⟩ :=
    exists_parts_of_listing (l := .gateways kind) (Q := fun _ => True)
      (fun g => (confined_gateway kind g).no_page) h
  have hsettings : (parts.map (·.result)).map (·.settings) = parts.map (·.given) := by
    rw [List.map_map]
    refine List.map_congr_left fun part _ => ?_
    obtain ⟨es, hruns⟩ := part.runs
    exact settings_of_runs_gateway hruns
  rw [hsettings]
  exact hgiven g

/-- The load balancers that have records are those that have been listed and are accepted, and every
virtual server that has been asked for belongs to one of them. -/
theorem of_runs_balancerRecords {records : List BalancerRecord}
    (h : Runs (balancerRecords filters) cs es (.ok records)) :
    (∀ r ∈ records, ∃ id calls, calls ⊆ cs ∧ r.TakenFrom filters.virtualServer id calls) ∧
      (∀ b : Balancer, filters.balancer.includes b.displayName b.id → Offered cs .balancers b →
        ∃ r ∈ records, ∃ calls ⊆ cs, r.TakenFrom filters.virtualServer b.id calls) ∧
      ∀ id settings, ⟨.virtualServer id, .ok settings⟩ ∈ cs → ∃ r ∈ records, ∃ id calls,
        r.TakenFrom filters.virtualServer id calls ∧
          ∃ id, ⟨.virtualServer id, .ok settings⟩ ∈ calls := by
  -- the calls are those for the pages, and then one part for each balancer that is accepted
  obtain ⟨pages, parts, rfl, hpages, rfl, hgiven⟩ :=
    exists_parts_of_listing (l := .balancers) (Q := fun _ => True)
      (fun b : Balancer => (confined_balancer filters.virtualServer b.id).no_page) h
  have hcalls : ∀ part ∈ parts, part.calls ⊆ pages ++ parts.flatMap (·.calls) :=
    fun part hpart c hc => List.mem_append_right _ (List.mem_flatMap.2 ⟨part, hpart, hc⟩)
  refine ⟨?_, ?_, ?_⟩
  · intro r hr
    obtain ⟨part, hpart, rfl⟩ := List.mem_map.1 hr
    obtain ⟨es, hruns⟩ := part.runs
    exact ⟨_, part.calls, hcalls part hpart, takenFrom_of_runs_balancer hruns⟩
  · intro b haccepts hoffered
    obtain ⟨part, hpart, rfl⟩ := List.mem_map.1 ((hgiven b).2 ⟨haccepts, hoffered⟩)
    obtain ⟨es, hruns⟩ := part.runs
    exact ⟨part.result, List.mem_map_of_mem hpart, part.calls, hcalls part hpart,
      takenFrom_of_runs_balancer hruns⟩
  · intro id settings hmem
    rcases List.mem_append.1 hmem with hmem | hmem
    · cases hpages _ hmem
    · obtain ⟨part, hpart, hmem⟩ := List.mem_flatMap.1 hmem
      obtain ⟨es, hruns⟩ := part.runs
      exact ⟨part.result, List.mem_map_of_mem hpart, _, part.calls,
        takenFrom_of_runs_balancer hruns, id, hmem⟩

/-- What a stage gathers shows only what is accepted. -/
theorem acceptsSeries_of_gathered {ids : List String} {stage : Stage} {samples : List Sample}
    (h : Gathered filters ids stage cs samples) {s : Sample} (hs : s ∈ samples) :
    filters.AcceptsSeries s.metric s.labels := by
  have hstage := (fitting_of_gathered h s hs).stage_eq
  obtain ⟨es, h⟩ := h
  cases stage with
  | cluster | nodes =>
    -- no allow-list is about the resources of these stages
    refine Filters.acceptsSeries_of_none ?_
    unfold Metric.stage at hstage
    cases hresource : s.metric.resource <;> rw [hresource] at hstage <;> first | rfl | cases hstage
  | balancers =>
    obtain ⟨records, hrun, rfl⟩ := runs_map_ok.1 h
    obtain ⟨r, hr, hs⟩ := List.mem_flatMap.1 hs
    obtain ⟨id, calls, -, htaken⟩ := (of_runs_balancerRecords hrun).1 r hr
    refine r.acceptsSeries (fun v hv => ?_) hs
    exact ((htaken.virtualServers v.settings).1 (List.mem_map_of_mem hv)).1
  | gateways kind =>
    obtain ⟨records, hrun, rfl⟩ := runs_map_ok.1 h
    obtain ⟨r, hr, hs⟩ := List.mem_flatMap.1 hs
    refine r.acceptsSeries ?_ hs
    exact ((mem_settings_of_gatewayRecords hrun).1 (List.mem_map_of_mem hr)).1

end Cycle

/-! ## Series of accepted resources -/

/-- A family has a series with these label values. -/
def Board.Shows (b : Board) (m : Metric) (labels : List String) : Prop :=
  labels ∈ (b.family m).map Prod.fst

theorem Board.mem_foldl_setIn {m : Metric} {samples : List Sample} {labels : List String}
    {entries : List (List String × Double)}
    (h : labels ∈ entries.map Prod.fst ∨ ∃ s ∈ samples, s.metric = m ∧ s.labels = labels) :
    labels ∈ (samples.foldl (setIn m) entries).map Prod.fst := by
  induction samples generalizing entries with
  | nil =>
    rcases h with h | ⟨s, hs, -⟩
    · exact h
    · cases hs
  | cons s samples ih =>
    refine ih ?_
    -- a series that has been set stays
    have hkept : labels ∈ entries.map Prod.fst → labels ∈ (setIn m entries s).map Prod.fst := by
      intro hmem
      unfold setIn
      split
      · rw [Series.map_fst_setEntry]
        split
        · exact hmem
        · exact List.mem_append_left _ hmem
      · exact hmem
    rcases h with h | ⟨s', hs', rfl, rfl⟩
    · exact .inl (hkept h)
    · rcases List.mem_cons.1 hs' with rfl | hs'
      · refine .inl ?_
        rw [setIn, if_pos rfl, Series.map_fst_setEntry]
        split
        · next hmem => exact hmem
        · exact List.mem_append_right _ List.mem_cons_self
      · exact .inr ⟨s', hs', rfl, rfl⟩

theorem Board.shows_setAll {samples : List Sample} {s : Sample} (hs : s ∈ samples) (b : Board) :
    (b.setAll samples).Shows s.metric s.labels := by
  unfold Shows
  rw [family_setAll]
  exact mem_foldl_setIn (.inr ⟨s, hs, rfl, rfl⟩)

namespace Cycle

variable {filters : Filters} {b b' : Board} {cs : List Call} {took : Duration}

/-- A cycle that has succeeded has gathered samples in every stage, and the families of the stage
hold these and nothing else. -/
theorem family_of_ok (h : Recorded filters b cs (.ok ()) took b') (stage : Stage) :
    ∃ ids samples, Gathered filters ids stage (callsOf stage cs) samples ∧
      ∀ m : Metric, m.stage = stage → b'.family m = (Board.blank.setAll samples).family m := by
  obtain ⟨es, hrun, rfl⟩ := h
  obtain ⟨ids, -, hprogress⟩ := progress hrun
  have hstage : stage ∈ (Script.published es).map Prod.fst := by
    rw [hprogress.of_ok rfl]
    exact stage.mem_order
  obtain ⟨samples, ⟨status, -, hgathered⟩, hfamily⟩ := collected_of_stage_published hrun hstage
  exact ⟨status.nodeIds, samples, hgathered, fun m hm => hfamily m hm b⟩

/-- A cycle that has succeeded has gathered samples in every stage, and the board shows them. -/
theorem gathered_of_ok (h : Recorded filters b cs (.ok ()) took b') (stage : Stage) :
    ∃ ids samples, Gathered filters ids stage (callsOf stage cs) samples ∧
      ∀ s ∈ samples, b'.Shows s.metric s.labels := by
  obtain ⟨ids, samples, hgathered, hfamily⟩ := family_of_ok h stage
  refine ⟨ids, samples, hgathered, fun s hs => ?_⟩
  unfold Board.Shows
  rw [hfamily s.metric (fitting_of_gathered hgathered s hs).stage_eq]
  exact Board.shows_setAll hs _

/-- A page is a call of its own stage. -/
theorem offered_callsOf {l : Listing} {x : l.Item} (h : Offered cs l x) :
    Offered (callsOf l.stage cs) l x := by
  obtain ⟨cursor, page, hmem, hx⟩ := h
  exact ⟨cursor, page, List.mem_filter.2 ⟨hmem, decide_eq_true (Request.stage_page l cursor)⟩, hx⟩

/-- After a cycle that has succeeded, an accepted gateway has its series. -/
theorem shows_gateway (h : Recorded filters b cs (.ok ()) took b') {kind : GatewayKind}
    {g : Gateway} (hoffered : Offered cs (.gateways kind) g)
    (haccepts : (filters.gateways kind).includes g.displayName g.id) :
    b'.Shows (.gateway kind .status) [g.id, nameOr g.displayName g.id] ∧
      b'.Shows (.gateway kind .transport) [g.id, nameOr g.displayName g.id] := by
  obtain ⟨ids, samples, ⟨es, hgather⟩, hshows⟩ := gathered_of_ok h (.gateways kind)
  obtain ⟨records, hrun, rfl⟩ := runs_map_ok.1 hgather
  obtain ⟨r, hr, rfl⟩ := List.mem_map.1
    ((mem_settings_of_gatewayRecords hrun).2 ⟨haccepts, offered_callsOf hoffered⟩)
  have hsample : ∀ s ∈ r.samples kind, b'.Shows s.metric s.labels :=
    fun s hs => hshows s (List.mem_flatMap.2 ⟨r, hr, hs⟩)
  have hstatus : ⟨.gateway kind .status, r.labels, statusValue r.state.state realizedState⟩ ∈
      r.samples kind := by
    unfold GatewayRecord.samples
    simp
  have htransport : Sample.count (.gateway kind .transport) r.labels r.state.details.length ∈
      r.samples kind := by
    unfold GatewayRecord.samples
    simp
  exact ⟨hsample _ hstatus, hsample _ htransport⟩

/-- In a cycle that has succeeded, an accepted load balancer has been asked for its status, and then
for the settings of all its virtual servers. -/
theorem asked_of_balancer (h : Recorded filters b cs (.ok ()) took b') {x : Balancer}
    (hoffered : Offered cs .balancers x)
    (haccepts : filters.balancer.includes x.displayName x.id) :
    ∃ statuses status, ⟨.balancerStatus x.id, .ok statuses⟩ ∈ cs ∧ statuses.results = [status] ∧
      ∀ s ∈ status.virtualServers, ∃ path settings, s.path = some path ∧
        ⟨.virtualServer (lastSegment path), .ok settings⟩ ∈ cs := by
  obtain ⟨ids, samples, ⟨es, hgather⟩, -⟩ := gathered_of_ok h .balancers
  obtain ⟨records, hrun, rfl⟩ := runs_map_ok.1 hgather
  obtain ⟨r, -, calls, hcalls, htaken⟩ :=
    (of_runs_balancerRecords hrun).2.1 x haccepts (offered_callsOf hoffered)
  have hmem : ∀ c ∈ calls, c ∈ cs := fun c hc => (List.mem_filter.1 (hcalls hc)).1
  obtain ⟨statuses, hstatus, hsingle⟩ := htaken.status
  refine ⟨statuses, r.status, hmem _ hstatus, hsingle, fun s hs => ?_⟩
  obtain ⟨path, settings, hpath, hasked⟩ := htaken.asked s hs
  exact ⟨path, settings, hpath, hmem _ hasked⟩

/-- After a cycle that has succeeded, an accepted virtual server has its series. -/
theorem shows_virtualServer (h : Recorded filters b cs (.ok ()) took b') {id : String}
    {settings : VirtualServer} (hasked : ⟨.virtualServer id, .ok settings⟩ ∈ cs)
    (haccepts : filters.virtualServer.includes settings.displayName settings.id) :
    b'.Shows (.virtualServer .enable) [nameOr settings.displayName settings.id, settings.id] := by
  obtain ⟨ids, samples, ⟨es, hgather⟩, hshows⟩ := gathered_of_ok h .balancers
  obtain ⟨records, hrun, rfl⟩ := runs_map_ok.1 hgather
  have hstage : ⟨.virtualServer id, .ok settings⟩ ∈ callsOf .balancers cs :=
    List.mem_filter.2 ⟨hasked, rfl⟩
  obtain ⟨r, hr, _, calls, htaken, hmem⟩ := (of_runs_balancerRecords hrun).2.2 id settings hstage
  obtain ⟨v, hv, rfl⟩ := List.mem_map.1 ((htaken.virtualServers settings).2 ⟨haccepts, hmem⟩)
  have hsample : ⟨.virtualServer .enable, v.labels, flagValue v.settings.enabled⟩ ∈ v.samples := by
    unfold VirtualServerRecord.samples
    simp
  have hown : ⟨.virtualServer .enable, v.labels, flagValue v.settings.enabled⟩ ∈ r.samples := by
    unfold BalancerRecord.samples
    exact List.mem_append_left _ (List.mem_append_right _ (List.mem_flatMap.2 ⟨v, hv, hsample⟩))
  exact hshows _ (List.mem_flatMap.2 ⟨r, hr, hown⟩)

end Cycle

end FabricGauges
