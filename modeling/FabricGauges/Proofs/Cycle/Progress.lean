import FabricGauges.Proofs.Cycle.Stages

/-!
# How a cycle stands

Whenever one looks at a cycle, it has passed some of its stages, in order, each of which has
published exactly once what it has gathered, and it is in the next stage, which has published
nothing yet. `Progress` says so for any list of stages. A stage at the head of a cycle adds itself
to the progress of the rest, so the progress of the whole cycle is put together stage by stage.
-/

namespace FabricGauges

/-! ## The order of the stages -/

/-- The stages in the order in which a cycle goes through them. -/
def Stage.order : List Stage := [.cluster, .nodes, .balancers, .gateways .tier1, .gateways .tier0]

/-- The place of a stage in the order. -/
def Stage.position : Stage → Nat
  | cluster => 0
  | nodes => 1
  | balancers => 2
  | gateways .tier1 => 3
  | gateways .tier0 => 4

/-- Every stage has its place in the order. -/
theorem Stage.mem_order (stage : Stage) : stage ∈ order := by
  rcases stage with _ | _ | _ | ⟨_ | _⟩ <;> decide

theorem Stage.sorted_order : order.Pairwise fun s s' => s.position < s'.position := by decide

theorem Stage.nodup_order : order.Nodup := by decide

/-- The stages before another one are those at the places before it. -/
theorem Stage.mem_before {before later : List Stage} {stage stage' : Stage}
    (h : order = before ++ stage :: later) :
    stage' ∈ before ↔ stage'.position < stage.position := by
  have hsorted := sorted_order
  have hmem := mem_order stage'
  rw [h, List.pairwise_append, List.pairwise_cons] at hsorted
  rw [h, List.mem_append, List.mem_cons] at hmem
  obtain ⟨-, ⟨hlater, -⟩, hbefore⟩ := hsorted
  constructor
  · exact fun hm => hbefore stage' hm stage List.mem_cons_self
  · intro hlt
    rcases hmem with hmem | rfl | hmem
    · exact hmem
    · omega
    · have hgt := hlater stage' hmem
      omega

/-! ## Progress -/

/-- The calls of a stage. -/
def callsOf (stage : Stage) (cs : List Call) : List Call :=
  cs.filter fun c => c.request.stage = stage

theorem callsOf_eq_self {stage : Stage} {cs : List Call} (h : ∀ c ∈ cs, c.request.stage = stage) :
    callsOf stage cs = cs := List.filter_eq_self.2 fun c hc => decide_eq_true (h c hc)

theorem callsOf_eq_nil {stage : Stage} {cs : List Call} (h : ∀ c ∈ cs, c.request.stage ≠ stage) :
    callsOf stage cs = [] := List.filter_eq_nil_iff.2 fun c hc => by simpa using h c hc

/-- The calls of a stage in two lists are those in the first, then those in the second. -/
theorem callsOf_append (stage : Stage) (cs cs' : List Call) :
    callsOf stage (cs ++ cs') = callsOf stage cs ++ callsOf stage cs' := List.filter_append _ _

open Script (Suspension)

/-- How a cycle through some stages stands after some calls: what it has published, and what it
waits for or how it has ended. `G` relates the calls of a stage to the samples that are gathered
from them. -/
inductive Progress (G : Stage → List Call → List Sample → Prop) :
    List Stage → List Call → List (Stage × List Sample) →
      Suspension (Except ScrapeError Unit) → Prop
  | finished : Progress G [] [] [] (.done (.ok ()))
  | waiting {stage : Stage} {later : List Stage} {cs : List Call} {request : Request}
      {resume : Except ApiError request.Answer → Script (Except ScrapeError Unit)}
      (own : ∀ c ∈ cs, c.request.stage = stage) (succeeded : ∀ c ∈ cs, c.Succeeded)
      (next : request.stage = stage) :
      Progress G (stage :: later) cs [] (.asking request resume)
  | failed {stage : Stage} {later : List Stage} {cs : List Call} {e : ScrapeError}
      (own : ∀ c ∈ cs, c.request.stage = stage) (failedIn : FailedIn cs e stage) :
      Progress G (stage :: later) cs [] (.done (.error e))
  | broken {later : List Stage} {cs : List Call} {samples : List Sample} {chain : BrokenChain}
      (own : ∀ c ∈ cs, c.request.stage = .nodes) (succeeded : ∀ c ∈ cs, c.Succeeded)
      (gathered : G .nodes cs samples) :
      Progress G (.nodes :: later) cs [(.nodes, samples)] (.done (.error (.certificate chain)))
  | passed {stage : Stage} {later : List Stage} {cs cs' : List Call} {samples : List Sample}
      {published : List (Stage × List Sample)} {p : Suspension (Except ScrapeError Unit)}
      (own : ∀ c ∈ cs, c.request.stage = stage) (succeeded : ∀ c ∈ cs, c.Succeeded)
      (gathered : G stage cs samples) (onward : Progress G later cs' published p) :
      Progress G (stage :: later) (cs ++ cs') ((stage, samples) :: published) p

namespace Progress

variable {G : Stage → List Call → List Sample → Prop} {stages : List Stage} {cs : List Call}
  {published : List (Stage × List Sample)} {p : Suspension (Except ScrapeError Unit)}

/-- No calls are made but those of the stages. -/
theorem stage_mem (h : Progress G stages cs published p) : ∀ c ∈ cs, c.request.stage ∈ stages := by
  induction h with
  | finished => rintro c ⟨⟩
  | waiting own | failed own | broken own =>
    intro c hc
    rw [own c hc]
    exact List.mem_cons_self
  | passed own _ _ _ ih =>
    intro c hc
    rcases List.mem_append.1 hc with hc | hc
    · rw [own c hc]
      exact List.mem_cons_self
    · exact List.mem_cons_of_mem _ (ih c hc)

/-- The stages that have been published are the first ones. -/
theorem published_prefix (h : Progress G stages cs published p) :
    ∃ ahead, stages = published.map Prod.fst ++ ahead := by
  induction h with
  | finished => exact ⟨[], rfl⟩
  | @waiting stage later | @failed stage later => exact ⟨stage :: later, rfl⟩
  | @broken later => exact ⟨later, rfl⟩
  | passed _ _ _ _ ih =>
    obtain ⟨ahead, rfl⟩ := ih
    exact ⟨ahead, rfl⟩

/-- What a stage has published is what has been gathered from its calls. -/
theorem gathered (h : Progress G stages cs published p) (hnodup : stages.Nodup) {stage : Stage}
    {samples : List Sample} (hmem : (stage, samples) ∈ published) :
    G stage (callsOf stage cs) samples := by
  induction h with
  | finished | waiting _ _ _ | failed _ _ => cases hmem
  | broken own _ hgathered =>
    obtain ⟨rfl, rfl⟩ := Prod.mk.inj (List.mem_singleton.1 hmem)
    rw [callsOf_eq_self own]
    exact hgathered
  | @passed first later cs cs' samples' published p own _ hgathered onward ih =>
    obtain ⟨hfirst, hlater⟩ := List.nodup_cons.1 hnodup
    rw [callsOf_append]
    rcases List.mem_cons.1 hmem with hmem | hmem
    · obtain ⟨rfl, rfl⟩ := Prod.mk.inj hmem
      -- no stage comes twice, so the later calls belong to other stages
      have hothers : ∀ c ∈ cs', c.request.stage ≠ stage :=
        fun c hc he => hfirst (he ▸ onward.stage_mem c hc)
      rw [callsOf_eq_self own, callsOf_eq_nil hothers, List.append_nil]
      exact hgathered
    · -- the stage is published later, so the first calls are not its own
      have hstage : stage ∈ later := by
        obtain ⟨ahead, rfl⟩ := onward.published_prefix
        exact List.mem_append_left _ (List.mem_map_of_mem hmem)
      have hown : ∀ c ∈ cs, c.request.stage ≠ stage := by
        intro c hc he
        rw [own c hc] at he
        exact hfirst (he ▸ hstage)
      rw [callsOf_eq_nil hown, List.nil_append]
      exact ih hlater hmem

/-- After a cycle without an error, every stage has been published. -/
theorem of_ok (h : Progress G stages cs published p) (hp : p = .done (.ok ())) :
    published.map Prod.fst = stages := by
  induction h with
  | finished => rfl
  | waiting _ _ _ | failed _ _ | broken _ _ _ => cases hp
  | passed _ _ _ _ ih => rw [List.map_cons, ih hp]

/-- After an error, the stage it comes from is the first one that has not been published; or it is a
broken chain, and the stage of the nodes is the last one that has been. -/
theorem of_error (h : Progress G stages cs published p) {e : ScrapeError}
    (hp : p = .done (.error e)) :
    (∃ stage later, stages = published.map Prod.fst ++ stage :: later ∧ FailedIn cs e stage) ∨
      ∃ before later chain, stages = before ++ .nodes :: later ∧
        published.map Prod.fst = before ++ [.nodes] ∧ e = .certificate chain := by
  induction h with
  | finished | waiting _ _ _ => cases hp
  | @failed stage later _ _ _ failedIn =>
    cases hp
    exact .inl ⟨stage, later, rfl, failedIn⟩
  | @broken later _ _ chain _ _ _ =>
    cases hp
    exact .inr ⟨[], later, chain, rfl, rfl, rfl⟩
  | @passed first _ _ _ _ _ _ _ succeeded _ _ ih =>
    -- the stage has passed, so the error comes from a later one
    rcases ih hp with ⟨stage, later, rfl, hfailed⟩ | ⟨before, later, chain, rfl, hbefore, rfl⟩
    · exact .inl ⟨stage, later, rfl, hfailed.append succeeded⟩
    · refine .inr ⟨first :: before, later, chain, rfl, ?_, rfl⟩
      rw [List.map_cons, hbefore, List.cons_append]

/-- While a cycle waits, all its calls have succeeded, and the stage of the open request is the
first one that has not been published. -/
theorem of_asking (h : Progress G stages cs published p) {request : Request}
    {resume : Except ApiError request.Answer → Script (Except ScrapeError Unit)}
    (hp : p = .asking request resume) :
    (∀ c ∈ cs, c.Succeeded) ∧
      ∃ later, stages = published.map Prod.fst ++ request.stage :: later := by
  induction h with
  | finished | failed _ _ | broken _ _ _ => cases hp
  | @waiting stage later _ _ _ _ succeeded next =>
    cases hp
    exact ⟨succeeded, later, by rw [next]; rfl⟩
  | passed _ succeeded _ _ ih =>
    obtain ⟨hcalls, later, rfl⟩ := ih hp
    exact ⟨List.forall_mem_append.2 ⟨succeeded, hcalls⟩, later, rfl⟩

end Progress

namespace Cycle

open Fetch

/-! ## The progress of a cycle -/

/-- A stage at the head of a cycle: what is left to be known is how the rest stands. -/
theorem progress_stage {α β : Type} {G : Stage → List Call → List Sample → Prop}
    {stage : Stage} {later : List Stage} {fetch : Fetch β} (hfetch : Gathers stage fetch)
    {events : β → List Event} {samples : β → List Sample} {verdict : β → Except ScrapeError α}
    {rest : α → Fetch Unit} {cs : List Call} {es : List Script.Effect}
    {p : Script.Suspension (Except ScrapeError Unit)}
    (h : Script.Reaches
      ((fetch >>= fun b => conclude (events b) stage (samples b) (verdict b)) >>= rest).run cs es p)
    (hgathered : ∀ cs₁ es₁ b, Runs fetch cs₁ es₁ (.ok b) → G stage cs₁ (samples b))
    (hbroken : ∀ b e, verdict b = .error e → stage = .nodes ∧ ∃ chain, e = .certificate chain)
    (hrest : ∀ cs₁ cs₂ es₁ es₂ b a, cs = cs₁ ++ cs₂ → Runs fetch cs₁ es₁ (.ok b) →
      verdict b = .ok a → Script.Reaches (rest a).run cs₂ es₂ p →
      Progress G later cs₂ (Script.published es₂) p) :
    Progress G (stage :: later) cs (Script.published es) p := by
  rw [bind_assoc] at h
  rcases reaches_bind.1 h with ⟨request, resume, hfirst, rfl⟩ | ⟨e, rfl, hfirst⟩ |
    ⟨cs₁, cs₂, es₁, es₂, b, rfl, rfl, hfirst, h⟩
  · obtain ⟨hown, hpublished, hnext⟩ := Script.Confined.reaches hfetch.confined hfirst
    rw [List.eq_nil_iff_forall_not_mem.2 hpublished]
    refine .waiting hown ?_ (hnext request resume rfl)
    rcases Script.Prompt.reaches hfetch.prompt hfirst with ⟨hsucceeded, -⟩ | ⟨_, _, _, _, _, hp⟩
    · exact hsucceeded
    · cases hp
  · obtain ⟨hown, hpublished⟩ := hfetch.confined.runs hfirst
    rw [List.eq_nil_iff_forall_not_mem.2 hpublished]
    exact .failed hown (hfetch.failedIn hfirst)
  · obtain ⟨hown, hpublished⟩ := hfetch.confined.runs hfirst
    have hsucceeded : ∀ c ∈ cs₁, c.Succeeded := by
      rcases hfetch.prompt.runs hfirst with ⟨hsucceeded, -⟩ | ⟨_, _, _, _, _, hr⟩
      · exact hsucceeded
      · cases hr
    rw [Script.published_append, List.eq_nil_iff_forall_not_mem.2 hpublished, List.nil_append]
    -- the conclusion asks for nothing, so all other calls are made by the rest
    rcases reaches_bind.1 h with ⟨request, resume, hsecond, -⟩ | ⟨e, rfl, hsecond⟩ |
      ⟨cs₃, cs₄, es₃, es₄, a, rfl, rfl, hsecond, hlast⟩
    · cases (reaches_conclude hsecond).2.2
    · obtain ⟨rfl, hes, hverdict⟩ := reaches_conclude hsecond
      obtain ⟨rfl, chain, rfl⟩ := hbroken b e (Script.Suspension.done.inj hverdict).symm
      rw [hes, List.append_nil]
      exact .broken hown hsucceeded (hgathered cs₁ es₁ b hfirst)
    · obtain ⟨rfl, hes, hverdict⟩ := reaches_conclude hsecond
      rw [Script.published_append, hes, List.nil_append]
      exact .passed hown hsucceeded (hgathered cs₁ es₁ b hfirst)
        (hrest cs₁ cs₄ es₁ es₄ b a rfl hfirst (Script.Suspension.done.inj hverdict).symm hlast)

/-- Some calls are a run of a stage's gathering, and these are its samples. -/
def Gathered (filters : Filters) (ids : List String) (stage : Stage) (cs : List Call)
    (samples : List Sample) : Prop :=
  ∃ es, Runs (gather filters ids stage) cs es (.ok samples)

theorem gathered_cluster {filters : Filters} {ids : List String} {cs : List Call}
    {samples : List Sample} (h : Gathered filters ids .cluster cs samples) :
    ∃ status, cs = [⟨.clusterStatus, .ok status⟩] := by
  obtain ⟨es, h⟩ := h
  obtain ⟨status, hask, -⟩ := runs_map_ok.1 h
  obtain ⟨answer, rfl, -, hanswer⟩ := runs_ask.1 hask
  cases answer with
  | error e => cases hanswer
  | ok status => exact ⟨status, rfl⟩

theorem error_of_verdict {records : List NodeRecord} {e : ScrapeError}
    (h : verdict records = .error e) : ∃ chain, e = .certificate chain := by
  unfold verdict at h
  split at h
  · next chain _ =>
    cases h
    exact ⟨chain, rfl⟩
  · cases h

/-- How a cycle stands. The nodes are those that the cluster has named. -/
theorem progress {filters : Filters} {cs : List Call} {es : List Script.Effect}
    {p : Script.Suspension (Except ScrapeError Unit)}
    (h : Script.Reaches (cycle filters).run cs es p) :
    ∃ ids, (∀ status later, cs = ⟨.clusterStatus, .ok status⟩ :: later → status.nodeIds = ids) ∧
      Progress (Gathered filters ids) Stage.order cs (Script.published es) p := by
  obtain ⟨ids, hids⟩ : ∃ ids : List String, ∀ status later,
      cs = ⟨.clusterStatus, .ok status⟩ :: later → status.nodeIds = ids := by
    by_cases hcs : ∃ status later, cs = ⟨.clusterStatus, .ok status⟩ :: later
    · obtain ⟨status, later, rfl⟩ := hcs
      refine ⟨status.nodeIds, ?_⟩
      intro status' later' h
      cases h
      rfl
    · exact ⟨[], fun status later h => absurd ⟨status, later, h⟩ hcs⟩
  refine ⟨ids, hids, ?_⟩
  rw [cycle, cluster_eq] at h
  refine progress_stage gathers_cluster h (fun cs₁ es₁ status hrun => ?_)
    (fun status e he => by cases he) ?_
  · exact ⟨es₁, runs_map_ok.2 ⟨status, hrun, rfl⟩⟩
  intro cs₁ cs₂ es₁ es₂ status _ hcs hrun hverdict h
  cases hverdict
  -- the identifiers that the rest goes on with are those of the first call
  obtain rfl : status.nodeIds = ids := by
    obtain ⟨answer, rfl, -, hanswer⟩ := runs_ask.1 hrun
    cases answer with
    | error e => cases hanswer
    | ok status' =>
      cases hanswer
      exact hids status cs₂ hcs
  rw [nodes_eq] at h
  refine progress_stage (gathers_nodes _) h (fun cs₁ es₁ records hrun => ?_)
    (fun records e he => ⟨rfl, error_of_verdict he⟩) ?_
  · exact ⟨es₁, runs_map_ok.2 ⟨records, hrun, rfl⟩⟩
  intro _ cs₂ _ es₂ records a _ _ _ h
  rw [balancers_eq] at h
  refine progress_stage (gathers_balancers filters) h (fun cs₁ es₁ records hrun => ?_)
    (fun records e he => by cases he) ?_
  · exact ⟨es₁, runs_map_ok.2 ⟨records, hrun, rfl⟩⟩
  intro _ cs₂ _ es₂ records a _ _ _ h
  rw [gateways_eq] at h
  refine progress_stage (gathers_gateways filters .tier1) h (fun cs₁ es₁ records hrun => ?_)
    (fun records e he => by cases he) ?_
  · exact ⟨es₁, runs_map_ok.2 ⟨records, hrun, rfl⟩⟩
  intro _ cs₂ _ es₂ records a _ _ _ h
  rw [gateways_eq, ← bind_pure (gatewayRecords _ _ >>= _)] at h
  refine progress_stage (gathers_gateways filters .tier0) h (fun cs₁ es₁ records hrun => ?_)
    (fun records e he => by cases he) ?_
  · exact ⟨es₁, runs_map_ok.2 ⟨records, hrun, rfl⟩⟩
  intro _ cs₂ _ es₂ records a _ _ _ h
  obtain ⟨rfl, rfl, rfl⟩ := Script.reaches_done.1 h
  exact .finished

/-- The samples of a stage are what has been gathered from the calls of the stage, for the nodes
that the cluster has named. -/
def Collected (filters : Filters) (cs : List Call) (stage : Stage) (samples : List Sample) : Prop :=
  ∃ status, ⟨.clusterStatus, .ok status⟩ ∈ cs ∧
    Gathered filters status.nodeIds stage (callsOf stage cs) samples

/-- Everything that a cycle publishes has been collected from its calls. -/
theorem collected_of_mem_published {filters : Filters} {cs : List Call} {es : List Script.Effect}
    {p : Script.Suspension (Except ScrapeError Unit)}
    (h : Script.Reaches (cycle filters).run cs es p) {stage : Stage} {samples : List Sample}
    (hmem : (stage, samples) ∈ Script.published es) : Collected filters cs stage samples := by
  obtain ⟨ids, hids, hprogress⟩ := progress h
  have hgathered := hprogress.gathered Stage.nodup_order hmem
  generalize Script.published es = published at hmem hprogress
  -- whatever the stage, the first one has passed
  obtain ⟨status, later, rfl⟩ : ∃ status later, cs = ⟨.clusterStatus, .ok status⟩ :: later := by
    unfold Stage.order at hprogress
    cases hprogress with
    | waiting _ _ _ | failed _ _ => cases hmem
    | passed _ _ hcluster _ =>
      obtain ⟨status, rfl⟩ := gathered_cluster hcluster
      exact ⟨status, _, rfl⟩
  rw [← hids status later rfl] at hgathered
  exact ⟨status, List.mem_cons_self, hgathered⟩

end Cycle

end FabricGauges
