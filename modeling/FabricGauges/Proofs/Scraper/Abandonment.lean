import FabricGauges.Proofs.Scraper.Shown
import Mathlib.Data.List.Forall2
import Mathlib.Data.List.Induction

/-!
# Cycles that are given up

A cycle can be given up wherever it waits for an answer. Since it clears the families of a stage and
fills them again without waiting in between, what it leaves behind is a matter of whole stages:
those before the stage of the open request are those of this cycle, and the others are as they were.
How the cycles went is only told when one has ended, so of that nothing is changed.
-/

namespace FabricGauges

namespace Scraper

variable {s : Scraper}

/-! ## Cycles that are answered -/

/-- What a manager answers to whatever is asked, and how long the cycle has been running then. -/
abbrev Reply := ((r : Request) → Except ApiError r.Answer) × Duration

/-- A task after some answers. -/
def answered (s : Scraper) (t : Task) (replies : List Reply) : Task :=
  replies.foldl (fun t x => s.react t (.answer x.1 x.2)) t

theorem answered_concat (t : Task) (replies : List Reply) (x : Reply) :
    s.answered t (replies ++ [x]) = s.react (s.answered t replies) (.answer x.1 x.2) :=
  List.foldl_append

theorem applyEffects_append (b : Board) (es es' : List Script.Effect) :
    applyEffects b (es ++ es') = applyEffects (applyEffects b es) es' := List.foldl_append

/-- An answer that leaves a task with an open request was to the request that was open before. -/
theorem of_react_answer {t : Task} {x : Reply} {request : Request}
    {resume : Except ApiError request.Answer → Script Outcome}
    (h : (s.react t (.answer x.1 x.2)).phase = .asking request resume) :
    ∃ asked next, t.phase = .asking asked next ∧
      (next (x.1 asked)).settle.2 = .asking request resume ∧
      (s.react t (.answer x.1 x.2)).state =
        ⟨applyEffects t.state.board (next (x.1 asked)).settle.1, t.state.stats⟩ := by
  unfold react at h ⊢
  cases hphase : t.phase with
  | sleeping delay | stopped =>
    rw [hphase] at h
    cases hphase.symm.trans h
  | asking asked next =>
    refine ⟨asked, next, rfl, ?_⟩
    rw [hphase] at h
    dsimp only at h ⊢
    unfold proceed at h ⊢
    -- had the cycle ended, the task would sleep
    generalize (next (x.1 asked)).settle = settled at h ⊢
    obtain ⟨effects, suspension⟩ := settled
    cases suspension with
    | done outcome => cases h
    | asking request' resume' =>
      cases h
      exact ⟨rfl, rfl⟩

/-- A cycle that waits has come there by a run of its script, which has only changed the board. -/
theorem reaches_answered {before : State} {logged : List Event} {replies : List Reply}
    {request : Request} {resume : Except ApiError request.Answer → Script Outcome}
    (h : (s.answered (s.beginCycle before logged) replies).phase = .asking request resume) :
    ∃ cs es, List.Forall₂ (fun x c => c.answer = x.1 c.request) replies cs ∧
      Script.Reaches (cycle s.filters).run cs es (.asking request resume) ∧
      (s.answered (s.beginCycle before logged) replies).state =
        ⟨applyEffects before.board es, before.stats⟩ := by
  induction replies using List.reverseRecOn generalizing request with
  | nil =>
    cases h
    exact ⟨[], _, .nil, .here _, rfl⟩
  | append_singleton replies x ih =>
    rw [answered_concat] at h ⊢
    obtain ⟨asked, next, hphase, hsettle, hstate⟩ := of_react_answer h
    obtain ⟨cs, es, hcalls, hreaches, hbefore⟩ := ih hphase
    have hanswered := hreaches.answered (x.1 asked)
    rw [hsettle] at hanswered
    refine ⟨_, _, List.rel_append hcalls (.cons rfl .nil), hanswered, ?_⟩
    rw [hstate, hbefore, applyEffects_append]

/-! ## Cycles that are given up -/

/-- A notice gives a cycle up as it is: the task stops, or begins with the next cycle. -/
theorem state_react_notice (t : Task) (n : Notice) : (s.react t (.notice n)).state = t.state := by
  unfold react
  dsimp only
  split
  · rfl
  · split
    · rfl
    · rfl

theorem phase_react_notice {t : Task} {request : Request}
    {resume : Except ApiError request.Answer → Script Outcome}
    (h : t.phase = .asking request resume) (n : Notice) :
    if n.stops then (s.react t (.notice n)).phase = .stopped
    else ∃ next, (s.react t (.notice n)).phase = .asking .clusterStatus next := by
  unfold react
  rw [h]
  dsimp only
  split
  · rfl
  · exact ⟨_, rfl⟩

/-- A cycle that is given up while it waits for an answer has replaced all families of the stages
before that of the open request by what it has collected, has left alone all families of this and of
the later stages, and has left no other trace. -/
theorem abandoned_cycle_is_stage_atomic {before : State} {logged : List Event}
    {replies : List Reply} {request : Request}
    {resume : Except ApiError request.Answer → Script Outcome}
    (h : (s.answered (s.beginCycle before logged) replies).phase = .asking request resume)
    (n : Notice) :
    let t := s.react (s.answered (s.beginCycle before logged) replies) (.notice n)
    ∃ cs es, List.Forall₂ (fun x c => c.answer = x.1 c.request) replies cs ∧
      (∀ c ∈ cs, c.Succeeded) ∧
      Script.Reaches (cycle s.filters).run cs es (.asking request resume) ∧
      (∀ stage : Stage, stage.position < request.stage.position →
        ∃ samples, Cycle.Collected s.filters cs stage samples ∧ ∀ m : Metric, m.stage = stage →
          t.state.board.family m = (Board.blank.setAll samples).family m) ∧
      (∀ stage : Stage, request.stage.position ≤ stage.position → ∀ m : Metric, m.stage = stage →
        t.state.board.family m = before.board.family m) ∧
      t.state.board.scrapeError = before.board.scrapeError ∧
      t.state.board.scrapeDuration = before.board.scrapeDuration ∧
      t.state.stats = before.stats ∧
      if n.stops then t.phase = .stopped else ∃ next, t.phase = .asking .clusterStatus next := by
  intro t
  obtain ⟨cs, es, hcalls, hreaches, hstate⟩ := reaches_answered h
  have hnotice : t.state = ⟨applyEffects before.board es, before.stats⟩ := by
    rw [← hstate]
    exact state_react_notice _ n
  obtain ⟨ids, -, hprogress⟩ := Cycle.progress hreaches
  obtain ⟨hsucceeded, later, horder⟩ := hprogress.of_asking rfl
  -- the stages before that of the open request have been published, and no other
  have hpublished : ∀ stage, stage ∈ (Script.published es).map Prod.fst ↔
      stage.position < request.stage.position := fun _ => Stage.mem_before horder
  refine ⟨cs, es, hcalls, hsucceeded, hreaches, ?_, ?_, ?_, ?_, ?_, phase_react_notice h n⟩
  · intro stage hlt
    obtain ⟨samples, hcollected, hfamily⟩ :=
      Cycle.collected_of_stage_published hreaches ((hpublished stage).2 hlt)
    refine ⟨samples, hcollected, fun m hm => ?_⟩
    rw [hnotice]
    exact hfamily m hm before.board
  · intro stage hle m hm
    have hnot : m.stage ∉ (Script.published es).map Prod.fst := by
      rw [hpublished, hm]
      omega
    rw [hnotice]
    exact Cycle.family_of_not_published hreaches hnot before.board
  · rw [hnotice, applyEffects_eq, Board.scrapeError_publishAll]
  · rw [hnotice, applyEffects_eq, Board.scrapeDuration_publishAll]
  · rw [hnotice]

/-- A cycle that is told to stop after its first answer, when a node that is gone still has a series
and the last cycle failed. -/
theorem stop_keeps_stale_node :
    let s : Scraper := ⟨.none, ⟨5⟩, ⟨1⟩⟩
    let status : ClusterStatus := ⟨⟨some "STABLE"⟩, ⟨some "STABLE", [⟨some "n1", none⟩], []⟩⟩
    let stale := (Board.blank.setAll [⟨.node .cpu, ["n0", "node", "1"], .one⟩]).fail
    let stats : ScrapeStats := ⟨1, 0, 1, none, some "lost"⟩
    let reply : Reply := (fun
      | .clusterStatus => .ok status
      | _ => .error (.transport "https://m"), ⟨7⟩)
    let t := s.react (s.answered (s.beginCycle ⟨stale, stats⟩ []) [reply]) (.notice (.value true))
    t.phase = .stopped ∧ t.state.stats = stats ∧ t.state.board.scrapeError = .one ∧
      t.state.board.family (.cluster .control) =
        (Board.blank.setAll status.samples).family (.cluster .control) ∧
      t.state.board.family (.node .cpu) = [(["n0", "node", "1"], .one)] := by
  intro s status stale stats reply t
  obtain ⟨resume, hphase⟩ : ∃ resume, (s.answered (s.beginCycle ⟨stale, stats⟩ []) [reply]).phase =
      .asking (.nodeStatus "n1") resume := ⟨_, rfl⟩
  obtain ⟨-, -, -, -, -, -, hkept, herror, -, hstats, hstopped⟩ :=
    abandoned_cycle_is_stage_atomic hphase (.value true)
  refine ⟨hstopped, hstats, herror, ?_, ?_⟩
  · rfl
  · rw [hkept .nodes (by decide) (.node .cpu) rfl]
    rfl

end Scraper

end FabricGauges
