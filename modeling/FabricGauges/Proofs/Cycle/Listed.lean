import FabricGauges.Proofs.Cycle.Turn
import FabricGauges.Proofs.Script.Parts

/-!
# Records of what is listed

A stage with a listing walks it and then fetches one record for each result that the filters accept.
What is said here is about runs of such a stage to its records: which records there are, and which
calls each of them comes from. Only pages and the calls about accepted results are among the calls.
-/

namespace FabricGauges

open Fetch

variable {α : Type} {cs : List Call} {es : List Script.Effect} {filters : Filters}

namespace Fetch

/-! ## Listing and fetching -/

/-- The requests about one resource are for no page. -/
theorem Confined.no_page {stage : Stage} {Q : Stage → Prop} {f : Fetch α}
    (h : Confined (Request.Detail stage) Q f) : Confined (fun r => r.isPage = false) Q f :=
  Script.Confined.mono h (fun _ hr => hr.2) fun _ hq => hq

/-- Calls for no page offer nothing. -/
theorem not_offered {l : Listing} {x : l.Item} (h : ∀ c ∈ cs, c.request.isPage = false) :
    ¬Offered cs l x := by
  intro hoffered
  obtain ⟨cursor, page, hmem, -⟩ := hoffered
  cases h _ hmem

/-- A run through a listing and the records of what is kept: first the pages, and then the calls of
one part for each result. -/
theorem exists_parts_of_listing {l : Listing} {keep : l.Item → Bool} {event : List l.Item → Event}
    {f : l.Item → Fetch α} {Q : Stage → Prop}
    (hf : ∀ x, Confined (fun r => r.isPage = false) Q (f x)) {as : List α}
    (h : Runs (walk l keep >>= fun listed => log (event listed) >>= fun _ => listed.mapM f) cs es
      (.ok as)) :
    ∃ (pages : List Call) (parts : List (Part f)), cs = pages ++ parts.flatMap (·.calls) ∧
      (∀ c ∈ pages, c.request.isPage) ∧ parts.map (·.result) = as ∧
        ∀ x, x ∈ parts.map (·.given) ↔ keep x ∧ Offered cs l x := by
  obtain ⟨pages, _, _, _, kept, rfl, rfl, hwalk, h⟩ := runs_bind_ok.1 h
  obtain ⟨_, hrecords⟩ := of_runs_log_bind h
  obtain ⟨parts, rfl, rfl, hresults⟩ := exists_parts hrecords
  refine ⟨pages, parts, rfl, ?_, hresults, fun x => ?_⟩
  · have hconfined : Confined (fun r => r.isPage) (fun _ => True) (walk l keep) :=
      confined_walk fun _ => rfl
    exact (hconfined.runs hwalk).1
  · have hdetails : ∀ c ∈ parts.flatMap (·.calls), c.request.isPage = false :=
      ((confined_mapM hf _).runs hrecords).1
    rw [mem_of_runs_walk hwalk, offered_append, or_iff_left (not_offered hdetails)]

/-! ## Single records -/

theorem settings_of_runs_gateway {kind : GatewayKind} {g : Gateway} {r : GatewayRecord}
    (h : Runs (gateway kind g) cs es (.ok r)) : r.settings = g := by
  obtain ⟨state, _, -, h⟩ := of_runs_ask_bind h
  obtain ⟨_, h⟩ := of_runs_log_bind h
  obtain ⟨-, -, hr⟩ := runs_pure.1 h
  obtain rfl := Except.ok.inj hr
  rfl

/-- A virtual server is asked for by its path, and becomes a record if its settings are accepted. -/
theorem of_runs_virtualServer? {id : String} {allowed : AllowList}
    {statistics : Index String VirtualServerStatistics} {status : VirtualServerStatus}
    {o : Option VirtualServerRecord}
    (h : Runs (virtualServer? id allowed statistics status) cs es (.ok o)) :
    ∃ path settings, status.path = some path ∧
      cs = [⟨.virtualServer (lastSegment path), .ok settings⟩] ∧
      o.map (·.settings) =
        if allowed.includes settings.displayName settings.id then some settings else none := by
  obtain ⟨path, hpath, hask⟩ := of_runs_require_bind h
  obtain ⟨settings, rest, rfl, hchoice⟩ := of_runs_ask_bind hask
  -- what comes after the settings asks for nothing
  suffices hrest : rest = [] ∧ o.map (·.settings) =
      if allowed.includes settings.displayName settings.id then some settings else none by
    obtain ⟨rfl, ho⟩ := hrest
    exact ⟨path, settings, hpath, rfl, ho⟩
  split at hchoice
  · next hallowed =>
    obtain ⟨found, -, hend⟩ := of_runs_require_bind hchoice
    obtain ⟨rfl, -, ho⟩ := runs_pure.1 hend
    obtain rfl := Except.ok.inj ho
    rw [if_pos hallowed]
    exact ⟨rfl, rfl⟩
  · next hallowed =>
    obtain ⟨_, hend⟩ := of_runs_log_bind hchoice
    obtain ⟨rfl, -, ho⟩ := runs_pure.1 hend
    obtain rfl := Except.ok.inj ho
    rw [if_neg hallowed]
    exact ⟨rfl, rfl⟩

/-- The calls about the pools of a load balancer ask for pools only. -/
theorem confined_pool_to_pools {Q : Stage → Prop} (id : String)
    (statistics : Index String PoolStatistics) (status : PoolStatus) :
    Confined (fun r => ∃ pool, r = .pool pool) Q (pool id statistics status) :=
  .bind (confined_require _ _) fun _ => .bind (confined_ask ⟨_, rfl⟩) fun _ =>
    .bind (confined_require _ _) fun _ => .bind (confined_ofExcept _) fun _ => confined_pure _

end Fetch

/-- The virtual servers of a load balancer, given the calls about it: those of the record are the
accepted ones among those that have been asked for, and the status names no others. -/
structure BalancerRecord.TakenFrom (allowed : AllowList) (id : String) (cs : List Call)
    (r : BalancerRecord) : Prop where
  status : ∃ statuses, ⟨.balancerStatus id, .ok statuses⟩ ∈ cs ∧ statuses.results = [r.status]
  asked : ∀ s ∈ r.status.virtualServers, ∃ path settings, s.path = some path ∧
    ⟨.virtualServer (lastSegment path), .ok settings⟩ ∈ cs
  virtualServers : ∀ settings, settings ∈ r.virtualServers.map (·.settings) ↔
    allowed.includes settings.displayName settings.id ∧
      ∃ id, ⟨.virtualServer id, .ok settings⟩ ∈ cs

namespace Fetch

/-- Of some virtual servers, the accepted ones that have been asked for become records. -/
theorem mem_settings_of_parts {id : String} {allowed : AllowList}
    {statistics : Index String VirtualServerStatistics}
    {parts : List (Part (virtualServer? id allowed statistics))} {settings : VirtualServer} :
    settings ∈ ((parts.map (·.result)).filterMap (·)).map (·.settings) ↔
      allowed.includes settings.displayName settings.id ∧
        ∃ id, ⟨.virtualServer id, .ok settings⟩ ∈ parts.flatMap (·.calls) := by
  constructor
  · intro h
    obtain ⟨v, hv, rfl⟩ := List.mem_map.1 h
    obtain ⟨o, ho, hov⟩ := List.mem_filterMap.1 hv
    obtain ⟨part, hpart, rfl⟩ := List.mem_map.1 ho
    obtain ⟨es, hruns⟩ := part.runs
    obtain ⟨path, settings, -, hcalls, hresult⟩ := of_runs_virtualServer? hruns
    rw [show part.result = some v from hov, Option.map_some] at hresult
    split at hresult
    · next hallowed =>
      obtain rfl := Option.some.inj hresult
      exact ⟨hallowed, _, List.mem_flatMap.2 ⟨part, hpart, hcalls ▸ List.mem_singleton_self _⟩⟩
    · cases hresult
  · intro h
    obtain ⟨hallowed, id', hmem⟩ := h
    obtain ⟨part, hpart, hmem⟩ := List.mem_flatMap.1 hmem
    obtain ⟨es, hruns⟩ := part.runs
    obtain ⟨path, settings', -, hcalls, hresult⟩ := of_runs_virtualServer? hruns
    -- the part has made one call, so this is it
    rw [hcalls] at hmem
    cases List.mem_singleton.1 hmem
    rw [if_pos hallowed] at hresult
    obtain ⟨v, hv, rfl⟩ := Option.map_eq_some_iff.1 hresult
    exact List.mem_map_of_mem
      (List.mem_filterMap.2 ⟨part.result, List.mem_map_of_mem hpart, hv⟩)

theorem takenFrom_of_runs_balancer {allowed : AllowList} {id : String} {r : BalancerRecord}
    (h : Runs (balancer allowed id) cs es (.ok r)) : r.TakenFrom allowed id cs := by
  obtain ⟨settings, _, rfl, h₁⟩ := of_runs_ask_bind h
  obtain ⟨statuses, _, rfl, h₂⟩ := of_runs_ask_bind h₁
  obtain ⟨status, hstatus, h₃⟩ := of_runs_ofExcept_bind h₂
  obtain ⟨pages, _, rfl, h₄⟩ := of_runs_ask_bind h₃
  obtain ⟨statistics, -, h₅⟩ := of_runs_ofExcept_bind h₄
  obtain ⟨_, _, _, _, servers, rfl, -, hservers, h₆⟩ := runs_bind_ok.1 h₅
  obtain ⟨cs₁, _, _, _, pools, rfl, -, hpools, h₇⟩ := runs_bind_ok.1 h₆
  obtain ⟨_, h₈⟩ := of_runs_log_bind h₇
  obtain ⟨rfl, -, hr⟩ := runs_pure.1 h₈
  obtain rfl := Except.ok.inj hr
  obtain ⟨parts, hgiven, rfl, rfl⟩ := exists_parts hservers
  have hothers : ∀ c ∈ cs₁, ∃ pool, c.request = .pool pool :=
    ((confined_mapM (Q := fun _ => True) (confined_pool_to_pools id _) _).runs hpools).1
  refine ⟨⟨statuses, by simp, single_eq_ok.1 hstatus⟩, ?_, fun settings' => ?_⟩
  · intro s hs
    obtain ⟨part, hpart, rfl⟩ := List.mem_map.1 (hgiven ▸ hs)
    obtain ⟨es, hruns⟩ := part.runs
    obtain ⟨path, settings', hpath, hcalls, -⟩ := of_runs_virtualServer? hruns
    have hmem : ⟨.virtualServer (lastSegment path), .ok settings'⟩ ∈ parts.flatMap (·.calls) :=
      List.mem_flatMap.2 ⟨part, hpart, hcalls ▸ List.mem_singleton_self _⟩
    exact ⟨path, settings', hpath, by simp [hmem]⟩
  · rw [mem_settings_of_parts]
    -- of all calls, only those of the parts ask for virtual servers
    have hpart : ∀ id', (⟨.virtualServer id', .ok settings'⟩ : Call) ∉ cs₁ := by
      intro id' hmem
      obtain ⟨pool, hpool⟩ := hothers _ hmem
      cases hpool
    simp [hpart]

end Fetch

end FabricGauges
