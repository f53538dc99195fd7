import FabricGauges.Proofs.Scraper.History

/-!
# The calls of the current cycle

The calls of a scraper since its current cycle began, or of its last cycle while it sleeps, are a
function of what has happened to it. A waiting task has come where it is by a run of the script with
just these calls, and a sleeping task has its board from a cycle with just these calls.
-/

namespace FabricGauges.Scraper

variable {s : Scraper}

/-! ## Calls -/

/-- The calls of the current cycle, after something has happened to a task. -/
def Task.callsAfter (t : Task) (cs : List Call) : Stimulus → List Call
  | .answer reply _ =>
    match t.phase with
    | .asking request _ => cs ++ [⟨request, reply request⟩]
    | _ => cs
  | .wake =>
    match t.phase with
    | .sleeping _ => []
    | _ => cs
  | .notice n =>
    match t.phase with
    | .stopped => cs
    | _ => if n.stops then cs else []

/-- The calls of the current cycle, after some things have happened to a task. -/
def callsFrom (s : Scraper) : Task → List Call → List Stimulus → List Call
  | _, cs, [] => cs
  | t, cs, x :: xs => s.callsFrom (s.react t x) (t.callsAfter cs x) xs

/-- The calls of the current cycle of a scraper. -/
def calls (s : Scraper) (stimuli : List Stimulus) : List Call :=
  s.callsFrom (s.start .blank) [] stimuli

/-! ## What the calls have led to -/

/-- The task is where these calls have led its cycle, and its board is what they have made of the
board before. -/
structure Traced (s : Scraper) (t : Task) (cs : List Call) : Prop where
  waiting : ∀ request resume, t.phase = .asking request resume → ∃ before es,
    Script.Reaches (cycle s.filters).run cs es (.asking request resume) ∧
      t.state.board = applyEffects before es
  rested : ∀ delay, t.phase = .sleeping delay → ∃ before outcome took,
    Cycle.Recorded s.filters before cs outcome took t.state.board ∧
      t.state.stats.lastError = EndedCycle.message? ⟨outcome, took⟩

theorem lastError_record (stats : ScrapeStats) (outcome : Outcome) (took : Duration) :
    (stats.record outcome took).lastError = EndedCycle.message? ⟨outcome, took⟩ := by
  cases outcome with
  | ok _ => rfl
  | error e => rfl

/-- A cycle goes on where its calls have led it, until it waits again or has ended. -/
theorem traced_proceed {state : State} (before : Board) {cs : List Call}
    {es : List Script.Effect} {script : Script Outcome}
    (hboard : state.board = applyEffects before es)
    (h : Script.Reaches (cycle s.filters).run cs (es ++ script.settle.1) script.settle.2)
    (logged : List Event) (took : Duration) : Traced s (s.proceed state logged script took) cs := by
  -- the effects since the cycle began, and those up to the next call
  have heffects : applyEffects state.board script.settle.1 =
      applyEffects before (es ++ script.settle.1) := by
    rw [hboard]
    exact List.foldl_append.symm
  unfold proceed
  generalize script.settle = settled at h heffects
  obtain ⟨effects, suspension⟩ := settled
  cases suspension with
  | asking request resume =>
    refine ⟨fun request' resume' hphase => ?_, fun delay hphase => by cases hphase⟩
    cases hphase
    exact ⟨before, es ++ effects, h, heffects⟩
  | done outcome =>
    refine ⟨fun request resume hphase => (by cases hphase), fun delay _ => ?_⟩
    refine ⟨before, outcome, took, ⟨es ++ effects, h, ?_⟩, lastError_record _ _ _⟩
    rw [← heffects]
    rfl

/-- A cycle begins without an answer. -/
theorem traced_beginCycle (state : State) (logged : List Event) :
    Traced s (s.beginCycle state logged) [] := by
  have h : Script.Reaches (cycle s.filters).run [] ([] ++ (cycle s.filters).run.settle.1)
      (cycle s.filters).run.settle.2 := .here _
  exact traced_proceed state.board rfl h logged ⟨0⟩

/-- A reaction leaves the task with the calls that have been answered by then. -/
theorem Traced.react {t : Task} {cs : List Call} (h : Traced s t cs) (x : Stimulus) :
    Traced s (s.react t x) (t.callsAfter cs x) := by
  cases x with
  | answer reply took =>
    unfold Scraper.react Task.callsAfter
    cases hphase : t.phase with
    | asking request resume =>
      obtain ⟨before, es, hreaches, hboard⟩ := h.waiting request resume hphase
      exact traced_proceed before hboard (hreaches.answered (reply request)) _ took
    | sleeping delay | stopped => exact h
  | wake =>
    unfold Scraper.react Task.callsAfter
    cases hphase : t.phase with
    | sleeping delay => exact traced_beginCycle _ _
    | asking request resume | stopped => exact h
  | notice n =>
    unfold Scraper.react Task.callsAfter
    cases hphase : t.phase with
    | stopped => exact h
    | asking _ _ | sleeping _ =>
      dsimp only
      split
      · -- a task that has stopped neither waits nor sleeps
        refine ⟨fun request resume hstopped => ?_, fun delay hstopped => ?_⟩
        · cases hstopped
        · cases hstopped
      · exact traced_beginCycle _ _

/-- Whatever happens to a scraper, its calls have led it where it is. -/
theorem traced_after (s : Scraper) (stimuli : List Stimulus) :
    Traced s (s.after stimuli) (s.calls stimuli) := by
  have hrun : ∀ (t : Task) (cs : List Call), Traced s t cs →
      Traced s (stimuli.foldl s.react t) (s.callsFrom t cs stimuli) := by
    induction stimuli with
    | nil => exact fun t cs h => h
    | cons x xs ih => exact fun t cs h => ih _ _ (h.react x)
  exact hrun _ _ (traced_beginCycle _ _)

end FabricGauges.Scraper
