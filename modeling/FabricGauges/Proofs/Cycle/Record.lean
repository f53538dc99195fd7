import FabricGauges.Proofs.Cycle.Progress
import FabricGauges.Proofs.Gauge.Family
import FabricGauges.Proofs.Metric.Identity

/-!
# What a cycle leaves on the board

A cycle that is recorded has run to its end on some board, which is then told how it went. The
families of a stage are replaced as a whole or not at all, whatever they held before, so what a
cycle leaves depends on the old board only where a failure kept it from publishing.
-/

namespace FabricGauges

theorem Scraper.applyEffects_eq (b : Board) (es : List Script.Effect) :
    applyEffects b es = b.publishAll (Script.published es) := by
  induction es generalizing b with
  | nil => rfl
  | cons e es ih =>
    cases e with
    | log event => exact ih b
    | publish stage samples => exact ih (b.publish stage samples)

namespace Cycle

open Fetch

/-! ## Recorded cycles -/

/-- From one board to the next by a cycle that had these calls, ended so and took so long. -/
def Recorded (filters : Filters) (b : Board) (cs : List Call) (outcome : Outcome) (took : Duration)
    (b' : Board) : Prop :=
  ∃ es, Runs (cycle filters) cs es outcome ∧
    b' = (Scraper.applyEffects b es).record outcome took

/-- A family holds what the calls of a cycle make of a blank board. -/
def Repopulated (filters : Filters) (cs : List Call) (b : Board) (m : Metric) : Prop :=
  ∃ samples, Collected filters cs m.stage samples ∧
    b.family m = (Board.blank.setAll samples).family m

/-- What is gathered for a stage are samples of the resources that the stage is about. -/
theorem exists_isOf_of_gathered {filters : Filters} {ids : List String} {stage : Stage}
    {cs : List Call} {samples : List Sample} (h : Gathered filters ids stage cs samples)
    {s : Sample} (hs : s ∈ samples) :
    ∃ resource identity, resource.stage = stage ∧ s.IsOf resource identity := by
  obtain ⟨es, h⟩ := h
  cases stage with
  | cluster =>
    obtain ⟨status, -, rfl⟩ := runs_map_ok.1 h
    exact ⟨_, _, rfl, AllOf.cluster status s hs⟩
  | nodes =>
    obtain ⟨records, -, rfl⟩ := runs_map_ok.1 h
    obtain ⟨n, -, hs⟩ := List.mem_flatMap.1 hs
    exact ⟨_, _, rfl, AllOf.node n s hs⟩
  | balancers =>
    obtain ⟨records, -, rfl⟩ := runs_map_ok.1 h
    obtain ⟨b, -, hs⟩ := List.mem_flatMap.1 hs
    exact b.exists_isOf hs
  | gateways kind =>
    obtain ⟨records, -, rfl⟩ := runs_map_ok.1 h
    obtain ⟨g, -, hs⟩ := List.mem_flatMap.1 hs
    exact ⟨_, _, rfl, AllOf.gateway kind g s hs⟩

theorem fitting_of_gathered {filters : Filters} {ids : List String} {stage : Stage}
    {cs : List Call} {samples : List Sample} (h : Gathered filters ids stage cs samples) :
    Fitting stage samples := by
  intro s hs
  obtain ⟨resource, identity, rfl, hof⟩ := exists_isOf_of_gathered h hs
  exact hof.fits

/-- A stage resets every family that it may fill, whatever it is told. -/
theorem mem_resets_of_gathered {filters : Filters} {ids : List String} {stage : Stage}
    {cs : List Call} {samples : List Sample} (h : Gathered filters ids stage cs samples) {s : Sample}
    (hs : s ∈ samples) : s.metric ∈ stage.resets :=
  Stage.mem_resets_iff.2 (fitting_of_gathered h s hs).stage_eq

theorem owned_published {filters : Filters} {cs : List Call} {es : List Script.Effect}
    {p : Script.Suspension Outcome} (h : Script.Reaches (cycle filters).run cs es p) :
    Board.Owned (Script.published es) := by
  intro q hq s hs
  obtain ⟨status, -, hgathered⟩ := collected_of_mem_published h hq
  exact (fitting_of_gathered hgathered s hs).stage_eq

theorem nodup_published {filters : Filters} {cs : List Call} {es : List Script.Effect}
    {p : Script.Suspension Outcome} (h : Script.Reaches (cycle filters).run cs es p) :
    ((Script.published es).map Prod.fst).Nodup := by
  obtain ⟨ids, -, hprogress⟩ := progress h
  obtain ⟨ahead, hahead⟩ := hprogress.published_prefix
  -- stages are published in their order, in which none comes twice
  have horder := Stage.nodup_order
  rw [hahead] at horder
  exact (List.nodup_append.1 horder).1

/-- At every moment of a cycle, the families of a stage that has been published are those of the
samples that have been collected for it, on every board. -/
theorem collected_of_stage_published {filters : Filters} {cs : List Call}
    {es : List Script.Effect} {p : Script.Suspension Outcome}
    (h : Script.Reaches (cycle filters).run cs es p) {stage : Stage}
    (hstage : stage ∈ (Script.published es).map Prod.fst) :
    ∃ samples, Collected filters cs stage samples ∧ ∀ m : Metric, m.stage = stage →
      ∀ b, (Scraper.applyEffects b es).family m = (Board.blank.setAll samples).family m := by
  obtain ⟨⟨stage, samples⟩, hq, rfl⟩ := List.mem_map.1 hstage
  refine ⟨samples, collected_of_mem_published h hq, ?_⟩
  rintro m rfl b
  rw [Scraper.applyEffects_eq]
  exact Board.family_publishAll_of_mem (owned_published h) (nodup_published h) hq

/-- The same of one family. -/
theorem family_of_published {filters : Filters} {cs : List Call} {es : List Script.Effect}
    {p : Script.Suspension Outcome} (h : Script.Reaches (cycle filters).run cs es p) {m : Metric}
    (hm : m.stage ∈ (Script.published es).map Prod.fst) :
    ∃ samples, Collected filters cs m.stage samples ∧
      ∀ b, (Scraper.applyEffects b es).family m = (Board.blank.setAll samples).family m := by
  obtain ⟨samples, hsamples, hfamily⟩ := collected_of_stage_published h hm
  exact ⟨samples, hsamples, hfamily m rfl⟩

/-- At every moment of a cycle, the families of a stage that has not been published are as before.
-/
theorem family_of_not_published {filters : Filters} {cs : List Call} {es : List Script.Effect}
    {p : Script.Suspension Outcome} (h : Script.Reaches (cycle filters).run cs es p) {m : Metric}
    (hm : m.stage ∉ (Script.published es).map Prod.fst) (b : Board) :
    (Scraper.applyEffects b es).family m = b.family m := by
  rw [Scraper.applyEffects_eq]
  exact Board.family_publishAll_of_not_mem (owned_published h) hm

/-! ## Failures -/

/-- A cycle that fails in a stage has replaced the families of the stages before and has left alone
those of this stage and of the later ones. A broken chain of certificates fails a cycle after the
stage of the nodes. The board tells that the cycle has failed, and how long the last good one took.
-/
theorem failed_cycle_keeps_later_stages {filters : Filters} {b b' : Board} {cs : List Call}
    {e : ScrapeError} {took : Duration} (h : Recorded filters b cs (.error e) took b') :
    b'.scrapeError = .one ∧ b'.scrapeDuration = b.scrapeDuration ∧
      ((∀ chain, e ≠ .certificate chain) → ∃ stage, FailedIn cs e stage) ∧
      (∀ stage, FailedIn cs e stage → ∀ m : Metric,
        (m.stage.position < stage.position → Repopulated filters cs b' m) ∧
        (stage.position ≤ m.stage.position → b'.family m = b.family m)) ∧
      (∀ chain, e = .certificate chain → ∀ m : Metric,
        (m.stage = .cluster ∨ m.stage = .nodes → Repopulated filters cs b' m) ∧
        (m.stage ≠ .cluster → m.stage ≠ .nodes → b'.family m = b.family m)) := by
  obtain ⟨es, hrun, rfl⟩ := h
  obtain ⟨ids, -, hprogress⟩ := progress hrun
  have hpublished : ∀ m : Metric, m.stage ∈ (Script.published es).map Prod.fst →
      Repopulated filters cs ((Scraper.applyEffects b es).record (.error e) took) m := by
    intro m hm
    obtain ⟨samples, hsamples, hfamily⟩ := family_of_published hrun hm
    exact ⟨samples, hsamples, hfamily b⟩
  refine ⟨rfl, ?_, ?_⟩
  · show (Scraper.applyEffects b es).scrapeDuration = b.scrapeDuration
    rw [Scraper.applyEffects_eq, Board.scrapeDuration_publishAll]
  -- the error comes from the first stage that has not been published, or from a broken chain
  rcases hprogress.of_error rfl with ⟨failed, later, horder, hfailed⟩ |
    ⟨before, later, chain, horder, hbefore, rfl⟩
  · refine ⟨fun _ => ⟨failed, hfailed⟩, ?_, ?_⟩
    · intro stage hstage m
      obtain rfl := hstage.stage_unique hfailed
      have hbefore : m.stage ∈ (Script.published es).map Prod.fst ↔
          m.stage.position < stage.position := Stage.mem_before horder
      refine ⟨fun hlt => hpublished m (hbefore.2 hlt), fun hle => ?_⟩
      exact family_of_not_published hrun (fun hm => absurd (hbefore.1 hm) (by omega)) b
    · exact fun chain he => absurd he (hfailed.ne_certificate chain)
  · refine ⟨fun hne => absurd rfl (hne chain), ?_, ?_⟩
    · exact fun stage hstage => absurd rfl (hstage.ne_certificate chain)
    · intro _ _ m
      -- the nodes have only the cluster before them
      have hcluster : ∀ stage : Stage, stage ∈ before ↔ stage = .cluster := by
        intro stage
        rw [Stage.mem_before horder]
        rcases stage with _ | _ | _ | ⟨_ | _⟩ <;> decide
      have hfirst : m.stage ∈ (Script.published es).map Prod.fst ↔
          m.stage = .cluster ∨ m.stage = .nodes := by
        rw [hbefore, List.mem_append, List.mem_singleton, hcluster]
      refine ⟨fun hm => hpublished m (hfirst.2 hm), fun hcluster hnodes => ?_⟩
      exact family_of_not_published hrun (fun hm => (hfirst.1 hm).elim hcluster hnodes) b

/-- The only node of a stable cluster cannot be reached. -/
theorem unreachable_node_keeps_node_families :
    let status : ClusterStatus := ⟨⟨some "STABLE"⟩, ⟨some "STABLE", [⟨some "n1", none⟩], []⟩⟩
    let cs : List Call :=
      [⟨.clusterStatus, .ok status⟩, ⟨.nodeStatus "n1", .error (.transport "https://m")⟩]
    let b := Board.blank.setAll [⟨.node .cpu, ["n0", "node", "1"], .one⟩]
    let b' := (b.publish .cluster status.samples).fail
    Recorded .none b cs (.error (.api (.transport "https://m"))) ⟨0⟩ b' ∧
      b'.scrapeError = .one ∧ FailedIn cs (.api (.transport "https://m")) .nodes ∧
      Repopulated .none cs b' (.cluster .control) ∧
      b'.family (.node .cpu) = [(["n0", "node", "1"], .one)] := by
  intro status cs b b'
  have h : Recorded .none b cs (.error (.api (.transport "https://m"))) ⟨0⟩ b' :=
    ⟨_, .onward rfl _ (.onward rfl _ (.here _)), rfl⟩
  have hfailed : FailedIn cs (.api (.transport "https://m")) .nodes :=
    ⟨[⟨.clusterStatus, .ok status⟩], _, rfl, by simp [Call.Succeeded], rfl, .inl ⟨_, rfl, rfl⟩⟩
  obtain ⟨herror, -, -, hstages, -⟩ := failed_cycle_keeps_later_stages h
  refine ⟨h, herror, hfailed, ?_, ?_⟩
  · exact (hstages .nodes hfailed (.cluster .control)).1 (by decide)
  · rw [(hstages .nodes hfailed (.node .cpu)).2 (by decide)]
    rfl

/-! ## Successes -/

/-- What a cycle that succeeds leaves in the families comes from its answers alone: on every board
the same answers lead to the same families, every series comes from a sample of this cycle, and
going through the same answers again changes nothing. For whatever a stage gathers, it fills no
family that it does not reset. -/
theorem successful_cycle_forgets_board {filters : Filters} {b₁ b₂ b₁' b₂' : Board}
    {cs : List Call} {outcome : Outcome} {took₁ took₂ : Duration}
    (h₁ : Recorded filters b₁ cs (.ok ()) took₁ b₁')
    (h₂ : Recorded filters b₂ cs outcome took₂ b₂') :
    outcome = .ok () ∧ b₁'.scrapeError = b₂'.scrapeError ∧
      (∀ m : Metric, b₁'.family m = b₂'.family m) ∧
      (∀ (m : Metric) labels value, (labels, value) ∈ b₁'.family m →
        ∃ samples, Collected filters cs m.stage samples ∧ ⟨m, labels, value⟩ ∈ samples) ∧
      (∀ took b', Recorded filters b₁' cs (.ok ()) took b' →
        ∀ m : Metric, b'.family m = b₁'.family m) ∧
      (∀ ids stage gathered samples, Gathered filters ids stage gathered samples →
        ∀ s ∈ samples, s.metric ∈ stage.resets) := by
  obtain ⟨es, hrun, rfl⟩ := h₁
  obtain ⟨es', hrun', rfl⟩ := h₂
  obtain ⟨rfl, rfl⟩ := hrun.unique hrun'
  -- every stage has been published, so every family has been replaced
  have hfamily : ∀ m : Metric, ∃ samples, Collected filters cs m.stage samples ∧
      ∀ b, (Scraper.applyEffects b es).family m = (Board.blank.setAll samples).family m := by
    intro m
    obtain ⟨ids, -, hprogress⟩ := progress hrun
    apply family_of_published hrun
    rw [hprogress.of_ok rfl]
    exact m.stage.mem_order
  have hsame : ∀ (b b' : Board) (m : Metric),
      (Scraper.applyEffects b es).family m = (Scraper.applyEffects b' es).family m := by
    intro b b' m
    obtain ⟨samples, -, hm⟩ := hfamily m
    rw [hm b, hm b']
  refine ⟨rfl, rfl, hsame b₁ b₂, ?_, ?_, fun _ _ _ _ hgathered _ => mem_resets_of_gathered hgathered⟩
  · intro m labels value hmem
    obtain ⟨samples, hsamples, hm⟩ := hfamily m
    rw [show ((Scraper.applyEffects b₁ es).record (.ok ()) took₁).family m = _ from hm b₁] at hmem
    exact ⟨samples, hsamples, Board.mem_of_mem_family_setAll hmem⟩
  · intro took b' h m
    obtain ⟨es', hrun', rfl⟩ := h
    obtain ⟨rfl, -⟩ := hrun.unique hrun'
    exact hsame _ b₁ m

/-- A manager with nothing left to show, on a board that still has a node and on a blank one. -/
theorem vanished_node_leaves_no_series :
    let status : ClusterStatus := ⟨⟨some "STABLE"⟩, ⟨some "STABLE", [], []⟩⟩
    let cs : List Call :=
      [⟨.clusterStatus, .ok status⟩, ⟨.page .balancers none, .ok ⟨[], none, none⟩⟩,
        ⟨.page (.gateways .tier1) none, .ok ⟨[], none, none⟩⟩,
        ⟨.page (.gateways .tier0) none, .ok ⟨[], none, none⟩⟩]
    let after := fun (b : Board) (took : Duration) =>
      (((((b.publish .cluster status.samples).publish .nodes []).publish .balancers []).publish
        (.gateways .tier1) []).publish (.gateways .tier0) []).succeed took
    let stale := Board.blank.setAll [⟨.node .cpu, ["n0", "node", "1"], .one⟩]
    Recorded .none stale cs (.ok ()) ⟨1⟩ (after stale ⟨1⟩) ∧
      Recorded .none Board.blank cs (.ok ()) ⟨2⟩ (after Board.blank ⟨2⟩) ∧
      (∀ m, (after stale ⟨1⟩).family m = (after Board.blank ⟨2⟩).family m) ∧
      stale.family (.node .cpu) = [(["n0", "node", "1"], .one)] ∧
      (after stale ⟨1⟩).family (.node .cpu) = [] := by
  intro status cs after stale
  -- the same calls on any board
  have hrun : ∀ b took, Recorded .none b cs (.ok ()) took (after b took) := by
    intro b took
    refine ⟨_, .onward rfl _ (.onward rfl _ (.onward rfl _ (.onward rfl _ (.here _)))), ?_⟩
    rw [Scraper.applyEffects_eq]
    rfl
  obtain ⟨-, -, hfamily, -⟩ :=
    successful_cycle_forgets_board (hrun stale ⟨1⟩) (hrun Board.blank ⟨2⟩)
  refine ⟨hrun stale ⟨1⟩, hrun Board.blank ⟨2⟩, hfamily, rfl, ?_⟩
  rw [hfamily]
  decide +kernel

end Cycle

end FabricGauges
