import FabricGauges.Proofs.Cycle.Record

/-!
# What a scraper shows

The endpoint may be asked at any moment, so a board is seen between any two of the steps by which it
changes: families are cleared, one sample is set, a cycle is recorded. `Board.Shown` are the boards
that come about in this way. They include the board of a scraper task whatever happens to it, and
each of their series has as many label values as its family has label names.
-/

namespace FabricGauges

/-! ## Boards -/

/-- A board that a scraper with these filters can have at some moment. -/
inductive Board.Shown (filters : Filters) : Board → Prop
  | blank : Shown filters .blank
  | clear {b : Board} (h : Shown filters b) (cleared : Metric → Bool) :
      Shown filters (b.clear cleared)
  | set {b : Board} (h : Shown filters b) {cs : List Call} {es : List Script.Effect}
      {p : Script.Suspension Outcome} (reaches : Script.Reaches (cycle filters).run cs es p)
      {stage : Stage} {samples : List Sample} (published : (stage, samples) ∈ Script.published es)
      {s : Sample} (hs : s ∈ samples) : Shown filters (b.setAll [s])
  | record {b : Board} (h : Shown filters b) (outcome : Outcome) (took : Duration) :
      Shown filters (b.record outcome took)

namespace Board

variable {filters : Filters} {b : Board}

/-- Every series has a label value for each label name of its family. -/
def Labelled (b : Board) : Prop :=
  ∀ entry ∈ b.series.entries, entry.1.2.length = entry.1.1.family.labels.length

theorem Labelled.of_mem_family (h : b.Labelled) {m : Metric} {series : List String × Double}
    (hmem : series ∈ b.family m) : series.1.length = m.family.labels.length := by
  rw [family_eq] at hmem
  obtain ⟨⟨⟨metric, labels⟩, value⟩, hentry, hm⟩ := List.mem_filterMap.1 hmem
  obtain ⟨rfl, hseries⟩ := Option.ite_none_right_eq_some.1 hm
  obtain rfl := Option.some.inj hseries
  exact h _ hentry

theorem Shown.labelled (h : b.Shown filters) : b.Labelled := by
  induction h with
  | blank => exact List.forall_mem_nil _
  | clear _ cleared ih => exact fun entry hentry => ih entry ((List.mem_filter.1 hentry).1)
  | set _ reaches published hs ih =>
    obtain ⟨status, -, hgathered⟩ := Cycle.collected_of_mem_published reaches published
    -- the new series comes from a sample of the cycle, and these fit their families
    intro entry hentry
    rcases Series.mem_of_mem_setEntry hentry with hold | rfl
    · exact ih entry hold
    · exact (Cycle.fitting_of_gathered hgathered _ hs).length_labels
  | record _ outcome took ih =>
    cases outcome with
    | ok _ => exact ih
    | error _ => exact ih

/-- Every series that is ever shown comes from a sample of a cycle. -/
theorem Shown.of_mem_family (h : b.Shown filters) {m : Metric} {labels : List String}
    {value : Double} (hmem : (labels, value) ∈ b.family m) :
    ∃ ids stage cs samples, Cycle.Gathered filters ids stage cs samples ∧
      ⟨m, labels, value⟩ ∈ samples := by
  -- it comes on the board by a sample that is set, and goes as it came
  induction h with
  | blank => cases hmem
  | clear _ cleared ih =>
    rw [family_clear] at hmem
    split at hmem
    · cases hmem
    · exact ih hmem
  | set _ reaches published hs ih =>
    rw [family_setAll] at hmem
    rcases mem_of_mem_foldl_setIn hmem with hold | hnew
    · exact ih hold
    · obtain ⟨status, -, hgathered⟩ := Cycle.collected_of_mem_published reaches published
      obtain rfl := List.mem_singleton.1 hnew
      exact ⟨_, _, _, _, hgathered, hs⟩
  | record _ outcome took ih =>
    cases outcome with
    | ok _ => exact ih hmem
    | error _ => exact ih hmem

/-- Samples that a cycle publishes can be set one after the other. -/
theorem Shown.setAll {cs : List Call} {es : List Script.Effect}
    {p : Script.Suspension Outcome} (reaches : Script.Reaches (cycle filters).run cs es p)
    {stage : Stage} {samples : List Sample} (published : (stage, samples) ∈ Script.published es)
    {first : List Sample} (hfirst : ∀ s ∈ first, s ∈ samples) (h : b.Shown filters) :
    (b.setAll first).Shown filters := by
  induction first generalizing b with
  | nil => exact h
  | cons s first ih =>
    obtain ⟨hs, hrest⟩ := List.forall_mem_cons.1 hfirst
    exact ih hrest (h.set reaches published hs)

/-- Families are reset one after the other. -/
theorem Shown.reset (families : List Metric) (h : b.Shown filters) :
    (b.reset families).Shown filters := by
  induction families generalizing b with
  | nil => exact h
  | cons f families ih => exact ih (h.clear (· = f))

/-- What a cycle publishes leads from one of these boards to another. -/
theorem Shown.applyEffects {cs : List Call} {es : List Script.Effect}
    {p : Script.Suspension Outcome} (reaches : Script.Reaches (cycle filters).run cs es p)
    {effects : List Script.Effect}
    (heffects : ∀ q ∈ Script.published effects, q ∈ Script.published es) (h : b.Shown filters) :
    (Scraper.applyEffects b effects).Shown filters := by
  rw [Scraper.applyEffects_eq]
  generalize Script.published effects = published at heffects
  induction published generalizing b with
  | nil => exact h
  | cons q published ih =>
    obtain ⟨hq, hrest⟩ := List.forall_mem_cons.1 heffects
    exact ih (Shown.setAll reaches hq (fun s hs => hs) (h.reset _)) hrest

end Board

/-! ## Tasks -/

namespace Scraper

variable (s : Scraper)

/-- The task after some things have happened to it. -/
def after (stimuli : List Stimulus) : Task := stimuli.foldl s.react (s.start .blank)

/-- The board can be shown, and an open request is one of the cycle. -/
structure Task.Sound (t : Task) : Prop where
  shown : t.state.board.Shown s.filters
  reaches : ∀ request resume, t.phase = .asking request resume →
    ∃ cs es, Script.Reaches (cycle s.filters).run cs es (.asking request resume)

variable {s}

/-- A cycle that goes on is sound if it has come there by its calls. -/
theorem sound_proceed {state : State} (hstate : state.board.Shown s.filters) (logged : List Event)
    {script : Script Outcome} (took : Duration) {cs : List Call} {es : List Script.Effect}
    (h : Script.Reaches (cycle s.filters).run cs (es ++ script.settle.1) script.settle.2) :
    Task.Sound s (s.proceed state logged script took) := by
  have hboard : (applyEffects state.board script.settle.1).Shown s.filters := by
    refine hstate.applyEffects h fun q hq => ?_
    rw [Script.published_append]
    exact List.mem_append_right _ hq
  unfold proceed
  dsimp only
  -- the cycle waits for the next answer, or it has ended and is recorded
  split
  · next request resume hsettle =>
    refine ⟨hboard, fun request' resume' hphase => ?_⟩
    rw [hsettle] at h
    cases hphase
    exact ⟨cs, _, h⟩
  · next outcome hsettle =>
    refine ⟨hboard.record outcome took, fun request resume hphase => ?_⟩
    cases hphase

theorem sound_beginCycle {state : State} (hstate : state.board.Shown s.filters)
    (logged : List Event) : Task.Sound s (s.beginCycle state logged) := by
  have h : Script.Reaches (cycle s.filters).run [] ([] ++ (cycle s.filters).run.settle.1)
      (cycle s.filters).run.settle.2 := .here _
  exact sound_proceed hstate logged _ h

/-- Reactions keep a task sound. -/
theorem sound_react {t : Task} (h : Task.Sound s t) (stimulus : Stimulus) :
    Task.Sound s (s.react t stimulus) := by
  cases stimulus with
  | answer reply took =>
    unfold react
    dsimp only
    split
    · next request resume hphase =>
      obtain ⟨cs, es, hreaches⟩ := h.reaches request resume hphase
      -- the cycle goes on from the request that was open
      exact sound_proceed h.shown _ took (hreaches.answered (reply request))
    · exact h
  | wake =>
    unfold react
    dsimp only
    split
    · exact sound_beginCycle h.shown _
    · exact h
  | notice n =>
    unfold react
    dsimp only
    split
    · exact h
    · split
      · exact ⟨h.shown, fun request resume hphase => by cases hphase⟩
      · -- the cycle is given up where it stands, and its board is the one of the next
        exact sound_beginCycle h.shown _

/-- Whatever happens to a task, its board is one that can be shown. -/
theorem shown_after (s : Scraper) (stimuli : List Stimulus) :
    (s.after stimuli).state.board.Shown s.filters := by
  have hsound : ∀ t : Task, Task.Sound s t → Task.Sound s (stimuli.foldl s.react t) := by
    induction stimuli with
    | nil => exact fun t ht => ht
    | cons stimulus stimuli ih => exact fun t ht => ih _ (sound_react ht stimulus)
  exact (hsound _ (sound_beginCycle .blank _)).shown

end Scraper

end FabricGauges
