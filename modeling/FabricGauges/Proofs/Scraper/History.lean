import FabricGauges.Proofs.Endpoint.Serving
import FabricGauges.Proofs.Scraper.Shown

/-!
# The history of a scraper

The cycles of a scraper that have run to their end are its history; cycles that were given up are no
part of it. The statistics, the two gauges about the cycles and the readiness of the endpoint are
kept in different places, and all of them are functions of this history. `Scraper.Tells` says so for
a state. What happens to a task adds at most one cycle to its history, and the state goes along.
-/

namespace FabricGauges

/-- A cycle that has run to its end. -/
structure EndedCycle where
  outcome : Outcome
  took : Duration

namespace EndedCycle

/-- The message of the error that the cycle ended with. -/
def message? (c : EndedCycle) : Option String :=
  match c.outcome with
  | .ok () => none
  | .error e => some e.message

/-- Whether the cycle ended without an error. -/
def succeeded (c : EndedCycle) : Bool := c.message?.isNone

@[simp] theorem succeeded_ok (result : Unit) (took : Duration) :
    succeeded ⟨.ok result, took⟩ = true := rfl

@[simp] theorem succeeded_error (e : ScrapeError) (took : Duration) :
    succeeded ⟨.error e, took⟩ = false := rfl

end EndedCycle

/-- How long the last cycle that succeeded took. -/
def lastSuccess? (history : List EndedCycle) : Option Duration :=
  (history.filter (·.succeeded)).getLast?.map (·.took)

/-- The message of the last cycle, if that failed. -/
def lastFailure? (history : List EndedCycle) : Option String :=
  history.getLast?.bind (·.message?)

section

variable {history : List EndedCycle} {c : EndedCycle}

theorem lastFailure?_append : lastFailure? (history ++ [c]) = c.message? := by
  rw [lastFailure?, List.getLast?_concat, Option.bind_some]

theorem lastSuccess?_append :
    lastSuccess? (history ++ [c]) = if c.succeeded then some c.took else lastSuccess? history := by
  unfold lastSuccess?
  rw [List.filter_append]
  split
  · next h => rw [List.filter_cons_of_pos h, List.filter_nil, List.getLast?_concat, Option.map_some]
  · next h => rw [List.filter_cons_of_neg h, List.filter_nil, List.append_nil]

theorem isSome_lastFailure? : (lastFailure? history).isSome ↔
    ∃ c, history.getLast? = some c ∧ c.succeeded = false := by
  unfold lastFailure? EndedCycle.succeeded
  cases history.getLast? with
  | none => simp
  | some c => simp

theorem isSome_lastSuccess? :
    (lastSuccess? history).isSome ↔ 0 < history.countP (·.succeeded) := by
  rw [lastSuccess?, Option.isSome_map, List.getLast?_isSome, List.countP_eq_length_filter,
    List.length_pos_iff]

end

namespace Scraper

/-! ## States that tell a history -/

section

/-- The statistics and the gauges of a state are those of a history. -/
structure Tells (history : List EndedCycle) (state : State) : Prop where
  cycles : state.stats.cycles = history.length
  successes : state.stats.successes = history.countP (·.succeeded)
  failures : state.stats.failures = history.countP (!·.succeeded)
  lastDuration : state.stats.lastDuration = lastSuccess? history
  lastError : state.stats.lastError = lastFailure? history
  scrapeError : state.board.scrapeError = if state.stats.lastError.isSome then .one else .zero
  scrapeDuration : state.board.scrapeDuration =
    state.stats.lastDuration.elim .zero Duration.toDouble

variable {history : List EndedCycle} {state : State}

/-- Before the first cycle there is nothing to tell. -/
theorem tells_blank : Tells [] .blank := ⟨rfl, rfl, rfl, rfl, rfl, rfl, rfl⟩

/-- A cycle that has ended is told from then on. -/
theorem Tells.record (h : Tells history state) (outcome : Outcome) (took : Duration) :
    Tells (history ++ [⟨outcome, took⟩]) (state.record outcome took) := by
  obtain ⟨hcycles, hsuccesses, hfailures, hduration, herror, hgauge, hscrape⟩ := h
  cases outcome with
  | ok _ =>
    refine ⟨?_, ?_, ?_, ?_, ?_, rfl, rfl⟩
    · simp [State.record, ScrapeStats.record, hcycles]
    · simp [State.record, ScrapeStats.record, hsuccesses]
    · simp [State.record, ScrapeStats.record, hfailures]
    · rw [lastSuccess?_append]
      rfl
    · rw [lastFailure?_append]
      rfl
  | error e =>
    refine ⟨?_, ?_, ?_, ?_, ?_, rfl, hscrape⟩
    · simp [State.record, ScrapeStats.record, hcycles]
    · simp [State.record, ScrapeStats.record, hsuccesses]
    · simp [State.record, ScrapeStats.record, hfailures]
    · rw [lastSuccess?_append]
      exact hduration
    · rw [lastFailure?_append]
      rfl

/-- What a cycle publishes on its way is no part of the history. -/
theorem Tells.applyEffects (h : Tells history state) (effects : List Script.Effect) :
    Tells history { state with board := applyEffects state.board effects } := by
  rw [applyEffects_eq]
  refine ⟨h.cycles, h.successes, h.failures, h.lastDuration, h.lastError, ?_, ?_⟩
  · rw [Board.scrapeError_publishAll]
    exact h.scrapeError
  · rw [Board.scrapeDuration_publishAll]
    exact h.scrapeDuration

end

/-! ## Histories -/

/-- The cycle that comes to its end when something happens to a task, if one does. -/
def Task.ended? (t : Task) : Stimulus → Option EndedCycle
  | .answer reply took =>
    match t.phase with
    | .asking request resume =>
      match (resume (reply request)).settle.2 with
      | .done outcome => some ⟨outcome, took⟩
      | .asking _ _ => none
    | _ => none
  | _ => none

/-- The cycles that come to their end when some things happen to a task. -/
def historyFrom (s : Scraper) : Task → List Stimulus → List EndedCycle
  | _, [] => []
  | t, x :: xs => (t.ended? x).toList ++ s.historyFrom (s.react t x) xs

/-- The cycles of a scraper that have run to their end. -/
def history (s : Scraper) (stimuli : List Stimulus) : List EndedCycle :=
  s.historyFrom (s.start .blank) stimuli

variable {s : Scraper} {t : Task}

/-- The history of two lists of stimuli is that of the first, and that of the second after it. -/
theorem historyFrom_append (t : Task) (xs ys : List Stimulus) :
    s.historyFrom t (xs ++ ys) = s.historyFrom t xs ++ s.historyFrom (xs.foldl s.react t) ys := by
  induction xs generalizing t with
  | nil => rfl
  | cons x xs ih =>
    rw [List.cons_append, historyFrom, historyFrom, ih, List.append_assoc]
    rfl

/-- What happens to a scraper later adds to its history. -/
theorem history_append (xs ys : List Stimulus) :
    s.history (xs ++ ys) = s.history xs ++ s.historyFrom (s.after xs) ys :=
  historyFrom_append _ xs ys

theorem length_historyFrom_le (t : Task) (xs : List Stimulus) :
    (s.historyFrom t xs).length ≤ xs.length := by
  induction xs generalizing t with
  | nil => exact Nat.le_refl 0
  | cons x xs ih =>
    have hone : (t.ended? x).toList.length ≤ 1 := Option.length_toList_le
    have hlater := ih (s.react t x)
    rw [historyFrom, List.length_append, List.length_cons]
    omega

/-! ## What happens to a task -/

/-- An answer may end a cycle. Nothing else does: a new cycle begins with a request, so it has not
ended, and one that is given up is no part of the history. -/
theorem Tells.react {history : List EndedCycle} (h : Tells history t.state) (x : Stimulus) :
    Tells (history ++ (t.ended? x).toList) (s.react t x).state := by
  have hsame : Tells (history ++ []) t.state := by
    rw [List.append_nil]
    exact h
  cases x with
  | answer reply took =>
    unfold Task.ended? Scraper.react
    cases t.phase with
    | sleeping delay | stopped => exact hsame
    | asking request resume =>
      dsimp only
      unfold proceed
      have heffects := h.applyEffects (resume (reply request)).settle.1
      generalize (resume (reply request)).settle = settled at heffects
      obtain ⟨effects, suspension⟩ := settled
      -- an answer that leads to another call ends nothing
      cases suspension with
      | asking request' resume' =>
        show Tells (history ++ []) _
        rw [List.append_nil]
        exact heffects
      | done outcome => exact heffects.record outcome took
  | wake =>
    unfold Task.ended? Scraper.react
    cases t.phase with
    | sleeping delay => exact hsame
    | asking request resume | stopped => exact hsame
  | notice n =>
    unfold Task.ended? Scraper.react
    cases t.phase with
    | stopped => exact hsame
    | asking request resume | sleeping delay =>
      dsimp only
      split
      · exact hsame
      · exact hsame

/-- The state of a scraper tells its history, whatever happens. -/
theorem tells_after (s : Scraper) (stimuli : List Stimulus) :
    Tells (s.history stimuli) (s.after stimuli).state := by
  have hrun : ∀ (history : List EndedCycle) (t : Task), Tells history t.state →
      Tells (history ++ s.historyFrom t stimuli) (stimuli.foldl s.react t).state := by
    induction stimuli with
    | nil =>
      intro history t ht
      rw [historyFrom, List.append_nil]
      exact ht
    | cons x xs ih =>
      intro history t ht
      rw [historyFrom, ← List.append_assoc]
      exact ih _ _ (ht.react x)
  exact hrun [] _ tells_blank

/-- A cycle that ended is a run of the script of a cycle. -/
theorem runs_of_ended? (ht : Task.Sound s t) {x : Stimulus} {c : EndedCycle}
    (hc : t.ended? x = some c) : ∃ cs es, Fetch.Runs (cycle s.filters) cs es c.outcome := by
  unfold Task.ended? at hc
  split at hc
  · next reply took =>
    split at hc
    · next request resume hphase =>
      obtain ⟨cs, es, hreaches⟩ := ht.reaches request resume hphase
      have hanswered := hreaches.answered (reply request)
      split at hc
      · next outcome hsettle =>
        cases hc
        rw [hsettle] at hanswered
        exact ⟨_, _, hanswered⟩
      · cases hc
    · cases hc
  · cases hc

/-- Every cycle of the history is a run of the script. -/
theorem runs_of_mem_history {stimuli : List Stimulus} {c : EndedCycle}
    (hc : c ∈ s.history stimuli) : ∃ cs es, Fetch.Runs (cycle s.filters) cs es c.outcome := by
  have hrun : ∀ t : Task, Task.Sound s t → c ∈ s.historyFrom t stimuli →
      ∃ cs es, Fetch.Runs (cycle s.filters) cs es c.outcome := by
    clear hc
    induction stimuli with
    | nil => rintro t - ⟨⟩
    | cons x xs ih =>
      intro t ht hc
      rcases List.mem_append.1 hc with hc | hc
      · exact runs_of_ended? ht (Option.mem_toList.1 hc)
      · exact ih _ (sound_react ht x) hc
  exact hrun _ (sound_beginCycle .blank _) hc

/-! ## Readiness -/

/-- The endpoint is ready once a cycle has succeeded. -/
theorem status_ready (r : Routes) (space : String) (state : State) {target : String}
    (htarget : requestPath target = "/ready") :
    (r.respond space state "GET" target).status =
      if 0 < state.stats.successes then 200 else 503 := by
  rw [Routes.respond_get_of_served? (htarget ▸ Routes.served?_ready r)]
  unfold Served.content
  dsimp only
  split <;> rfl

/-- A scraper that has had a success keeps it. -/
theorem successes_le_append (xs ys : List Stimulus) :
    (s.after xs).state.stats.successes ≤ (s.after (xs ++ ys)).state.stats.successes := by
  rw [(tells_after s xs).successes, (tells_after s _).successes, history_append, List.countP_append]
  exact Nat.le_add_right _ _

/-- Whatever happens to a scraper, the statistics count the cycles that have run to their end, the
gauge of errors and the last error are about the last one of them, the gauge of the duration and the
last duration are about the last one that succeeded, and the endpoint is ready from the first
success on. -/
theorem statistics_tell_history (s : Scraper) (stimuli : List Stimulus) :
    let history := s.history stimuli
    let board := (s.after stimuli).state.board
    let stats := (s.after stimuli).state.stats
    (∀ c ∈ history, ∃ cs es, Fetch.Runs (cycle s.filters) cs es c.outcome) ∧
    (stats.cycles = history.length ∧ stats.successes = history.countP (·.succeeded) ∧
      stats.cycles = stats.successes + stats.failures ∧ stats.cycles ≤ stimuli.length) ∧
    ((board.scrapeError = .one ↔ stats.lastError.isSome) ∧
      (board.scrapeError = .zero ↔ stats.lastError = none) ∧
      (stats.lastError.isSome ↔ ∃ c, history.getLast? = some c ∧ c.succeeded = false) ∧
      stats.lastError = history.getLast?.bind (·.message?)) ∧
    ((stats.lastDuration.isSome ↔ 0 < stats.successes) ∧
      stats.lastDuration = (history.filter (·.succeeded)).getLast?.map (·.took) ∧
      board.scrapeDuration = stats.lastDuration.elim .zero Duration.toDouble) ∧
    ∀ (r : Routes) (space target : String), requestPath target = "/ready" →
      ((r.respond space (s.after stimuli).state "GET" target).status = 200 ↔
        0 < stats.successes) ∧
      ((r.respond space (s.after stimuli).state "GET" target).status = 503 ↔
        stats.successes = 0) ∧
      ((r.respond space (s.after stimuli).state "GET" target).status = 200 → ∀ later,
        (r.respond space (s.after (stimuli ++ later)).state "GET" target).status = 200) := by
  intro history board stats
  -- the invariant, from which each clause is read off
  have h : Tells history (s.after stimuli).state := tells_after s stimuli
  have hcycles : stats.cycles = history.length := h.cycles
  have hsuccesses : stats.successes = history.countP (·.succeeded) := h.successes
  have hfailures : stats.failures = history.countP (!·.succeeded) := h.failures
  have herror : stats.lastError = lastFailure? history := h.lastError
  have hduration : stats.lastDuration = lastSuccess? history := h.lastDuration
  have hgauge : board.scrapeError = if stats.lastError.isSome then .one else .zero := h.scrapeError
  refine ⟨fun c hc => runs_of_mem_history hc, ⟨hcycles, hsuccesses, ?_, ?_⟩, ⟨?_, ?_, ?_, herror⟩,
    ⟨?_, hduration, h.scrapeDuration⟩, ?_⟩
  · have hsplit := List.length_eq_countP_add_countP (·.succeeded) (l := history)
    rw [hcycles, hsuccesses, hfailures, hsplit]
    simp
  · rw [hcycles]
    exact length_historyFrom_le _ _
  · rw [hgauge]
    cases stats.lastError.isSome <;> decide
  · rw [hgauge, ← Option.not_isSome_iff_eq_none]
    cases stats.lastError.isSome <;> decide
  · rw [herror, isSome_lastFailure?]
  · rw [hduration, hsuccesses, isSome_lastSuccess?]
  · intro r space target htarget
    have hready : ∀ state : State, (r.respond space state "GET" target).status = 200 ↔
        0 < state.stats.successes := by
      intro state
      rw [status_ready r space state htarget]
      split
      · next hpos => exact iff_of_true rfl hpos
      · next hzero => exact iff_of_false (by decide) hzero
    refine ⟨hready _, ?_, ?_⟩
    · rw [status_ready r space _ htarget]
      show _ ↔ (s.after stimuli).state.stats.successes = 0
      split
      · next hpos => exact iff_of_false (by decide) (by omega)
      · next hzero => exact iff_of_true rfl (by omega)
    · intro h200 later
      have hmore := s.successes_le_append stimuli later
      exact (hready _).2 (Nat.lt_of_lt_of_le ((hready _).1 h200) hmore)

/-- A cycle that fails, one that is given up after its first answer, and one that succeeds. -/
theorem recovered_scraper_is_ready :
    let s : Scraper := ⟨.none, ⟨5⟩, ⟨1⟩⟩
    let r : Routes := ⟨[.char '/']⟩
    let fails : Stimulus := .answer (fun _ => .error (.transport "https://m")) ⟨7⟩
    let works : Duration → Stimulus := .answer fun
      | .clusterStatus => .ok ⟨⟨some "STABLE"⟩, ⟨some "STABLE", [], []⟩⟩
      | .page _ _ => .ok ⟨[], none, none⟩
      | _ => .error (.transport "https://m")
    let before := [fails, .wake, works ⟨1⟩, .notice (.value false)]
    let stimuli := before ++ [works ⟨1⟩, works ⟨2⟩, works ⟨3⟩, works ⟨4⟩]
    (s.after before).state.stats.lastError.isSome ∧
      (s.after before).state.board.scrapeError = .one ∧
      (s.after stimuli).state.stats = ⟨2, 1, 1, some ⟨4⟩, none⟩ ∧
      (s.after stimuli).state.board.scrapeError = .zero ∧
      ∀ later,
        (r.respond "nsxt" (s.after (stimuli ++ later)).state "GET" "/ready").status = 200 := by
  intro s r fails works before stimuli
  have herror : (s.after before).state.stats.lastError.isSome := rfl
  have hstats : (s.after stimuli).state.stats = ⟨2, 1, 1, some ⟨4⟩, none⟩ := rfl
  obtain ⟨-, -, ⟨hfailed, -⟩, -⟩ := statistics_tell_history s before
  obtain ⟨-, -, ⟨-, hfine, -⟩, -, hready⟩ := statistics_tell_history s stimuli
  obtain ⟨h200, -, hstays⟩ := hready r "nsxt" "/ready" (by decide)
  refine ⟨herror, hfailed.2 herror, hstats, hfine.2 (by rw [hstats]), ?_⟩
  exact hstays (h200.2 (by rw [hstats]; decide))

end Scraper

end FabricGauges
