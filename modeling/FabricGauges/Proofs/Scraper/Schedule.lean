import FabricGauges.Proofs.Scraper.Chronicle

/-!
# The schedule of a scraper

What the chronicle of a scraper tells about its schedule: one cycle at a time, each as long after
the one before as its interval says unless a notice comes first, and nothing at all after the notice
that ends the task.
-/

namespace FabricGauges.Scraper

variable {s : Scraper}

/-! ## One cycle at a time -/

/-- A cycle is over when another begins. -/
def CycleSpan.Precedes (a b : CycleSpan) : Prop :=
  ∃ ending, a.over? = some ending ∧ a.began ≤ ending ∧ ending ≤ b.began

instance : Trans CycleSpan.Precedes CycleSpan.Precedes CycleSpan.Precedes where
  trans := by
    intro a b c hab hbc
    obtain ⟨ending, hover, hbegan, hle⟩ := hab
    obtain ⟨ending', -, hbegan', hle'⟩ := hbc
    exact ⟨ending, hover, hbegan, by omega⟩

theorem Follows.precedes {a b : CycleSpan} (h : Follows s a b)
    (ha : ∀ ending, a.over? = some ending → a.began ≤ ending) : a.Precedes b := by
  have hends : ∀ {time}, a.over? = some time → time ≤ b.began → a.Precedes b :=
    fun hover hle => ⟨_, hover, ha _ hover, hle⟩
  unfold CycleSpan.over? at hends
  cases h with
  | afterSuccess ended timer began | afterFailure ended timer began =>
    rw [ended] at hends
    exact hends rfl (by omega)
  | early ended notice goes after within =>
    rw [ended] at hends
    exact hends rfl after
  | instead abandoned notice goes began =>
    rw [abandoned] at hends
    exact hends rfl (by omega)

/-- Two cycles of which one precedes the other are never in progress together. -/
theorem CycleSpan.Precedes.not_inProgress {a b : CycleSpan} (h : a.Precedes b) (time : Nat) :
    ¬(a.InProgress time ∧ b.InProgress time) := by
  intro hboth
  obtain ⟨ending, hover, -, hle⟩ := h
  have hlt := hboth.1.2 ending hover
  have hbegan := hboth.2.1
  omega

namespace Kept

variable {cycles inProgress : Nat} {ms : List Moment} {past : List CycleSpan} {last : CycleSpan}

/-- No two cycles are in progress at the same time. -/
theorem pairwise (h : Kept s cycles inProgress ms past last) :
    (past ++ [last]).Pairwise fun a b => ∀ time, ¬(a.InProgress time ∧ b.InProgress time) := by
  have hprecedes : (past ++ [last]).IsChain CycleSpan.Precedes :=
    h.follows.imp_of_mem_imp fun a b ha _ hab => hab.precedes (h.orderly a ha)
  exact hprecedes.pairwise.imp fun hab => hab.not_inProgress

/-- When every notice ends the task, a cycle only follows another when the interval is over. -/
theorem timed_of_stops (h : Kept s cycles inProgress ms past last)
    (hstops : ∀ m ∈ ms, ∀ seen, m.notice? = some seen → seen.2.stops) :
    (past ++ [last]).IsChain fun a b => ∃ time,
      (a.fate = .ended time (.ok ()) ∧ b.began = time + s.interval.nanoseconds) ∨
        ∃ e, a.fate = .ended time (.error e) ∧ b.began = time + s.errorInterval.nanoseconds := by
  refine h.follows.imp_of_mem_imp fun a b _ hb hab => ?_
  have hnotice : ∀ n, b.origin = .notice n → n.stops = true := by
    intro n hn
    obtain ⟨m, hm, hseen⟩ := List.mem_filterMap.1 (h.noticed b hb n hn)
    exact hstops m hm _ hseen
  cases hab with
  | afterSuccess ended _ began => exact ⟨_, .inl ⟨ended, began⟩⟩
  | afterFailure ended _ began => exact ⟨_, .inr ⟨_, ended, began⟩⟩
  | early _ notice goes _ _ | instead _ notice goes _ =>
    rw [hnotice _ notice] at goes
    cases goes

/-- Without notices, cycles follow each other when the interval is over. -/
theorem timed (h : Kept s cycles inProgress ms past last) (hquiet : ∀ m ∈ ms, m.notice? = none) :
    (past ++ [last]).IsChain fun a b => ∃ time,
      (a.fate = .ended time (.ok ()) ∧ b.began = time + s.interval.nanoseconds) ∨
        ∃ e, a.fate = .ended time (.error e) ∧ b.began = time + s.errorInterval.nanoseconds := by
  refine h.timed_of_stops fun m hm seen hseen => ?_
  rw [hquiet m hm] at hseen
  cases hseen

end Kept

/-! ## The end -/

theorem phase_beginCycle_ne (state : State) (logged : List Event) :
    (s.beginCycle state logged).phase ≠ .stopped := nofun

theorem phase_proceed_ne (state : State) (logged : List Event) (script : Script Outcome)
    (took : Duration) : (s.proceed state logged script took).phase ≠ .stopped := by
  unfold proceed
  dsimp only
  split
  · nofun
  · nofun

theorem Moment.exists_notice {m : Moment} (h : m.stops) :
    ∃ n, m.stimulus = .notice n ∧ n.stops := by
  unfold Moment.stops Moment.notice? at h
  cases hstimulus : m.stimulus with
  | notice n =>
    rw [hstimulus] at h
    exact ⟨n, rfl, h⟩
  | answer _ _ | wake =>
    rw [hstimulus] at h
    cases h

/-- A notice that says so ends a task, and nothing else does. -/
theorem phase_react_stopped {t : Task} {m : Moment} :
    (s.react t m.stimulus).phase = .stopped ↔ t.phase = .stopped ∨ m.stops := by
  by_cases hstopped : t.phase = .stopped
  · rw [react_of_stopped hstopped]
    exact iff_of_true hstopped (.inl hstopped)
  · rw [or_iff_right hstopped]
    unfold Moment.stops Moment.notice? Scraper.react
    cases m.stimulus with
    | answer reply took =>
      refine iff_of_false ?_ nofun
      dsimp only
      split
      · exact phase_proceed_ne _ _ _ _
      · exact hstopped
    | wake =>
      refine iff_of_false ?_ nofun
      dsimp only
      split
      · exact phase_beginCycle_ne _ _
      · exact hstopped
    | notice n =>
      show _ ↔ n.stops
      dsimp only
      split
      · next hphase => exact absurd hphase hstopped
      · split
        · next hstops => exact iff_of_true rfl hstops
        · next hgoes => exact iff_of_false (phase_beginCycle_ne _ _) hgoes

theorem after_concat (ms : List Moment) (m : Moment) :
    s.after ((ms ++ [m]).map (·.stimulus)) =
      s.react (s.after (ms.map (·.stimulus))) m.stimulus := by
  rw [List.map_append]
  exact List.foldl_append

theorem chronicleFrom_append (ms ms' : List Moment) (t : Task) (c : Chronicle) :
    s.chronicleFrom t c (ms ++ ms') =
      s.chronicleFrom ((ms.map (·.stimulus)).foldl s.react t) (s.chronicleFrom t c ms) ms' := by
  induction ms generalizing t c with
  | nil => rfl
  | cons m ms ih => exact ih _ _

/-- A task has stopped when a notice has ended it. -/
theorem phase_after_stopped {ms : List Moment} :
    (s.after (ms.map (·.stimulus))).phase = .stopped ↔ ∃ m ∈ ms, m.stops := by
  induction ms using List.reverseRecOn with
  | nil => exact iff_of_false (phase_beginCycle_ne _ _) (by simp)
  | append_singleton ms m ih =>
    rw [after_concat, phase_react_stopped, ih]
    simp [or_and_right, exists_or]

/-- Nothing happens any more to a task that has stopped. -/
theorem after_append_of_stopped {ms : List Moment}
    (h : (s.after (ms.map (·.stimulus))).phase = .stopped) (later : List Moment) :
    s.after ((ms ++ later).map (·.stimulus)) = s.after (ms.map (·.stimulus)) ∧
      s.chronicle (ms ++ later) = s.chronicle ms := by
  induction later using List.reverseRecOn with
  | nil =>
    rw [List.append_nil]
    exact ⟨rfl, rfl⟩
  | append_singleton later m ih =>
    obtain ⟨hafter, hchronicle⟩ := ih
    have hstopped : (s.after ((ms ++ later).map (·.stimulus))).phase = .stopped := by
      rw [hafter]
      exact h
    constructor
    · rw [← List.append_assoc, after_concat, react_of_stopped hstopped, hafter]
    · rw [← List.append_assoc, chronicle, chronicleFrom_append]
      exact (Chronicle.next_of_stopped hstopped _ m).trans hchronicle

/-- The notice that ends a task leaves everything as it is: the board, the statistics and the calls
that have been made. -/
theorem of_stops {before : List Moment} {m : Moment} (h : m.stops)
    (hbefore : ∀ x ∈ before, x.stops = false) :
    (s.after (before.map (·.stimulus))).phase ≠ .stopped ∧
      (s.after ((before ++ [m]).map (·.stimulus))).phase = .stopped ∧
      (s.after ((before ++ [m]).map (·.stimulus))).state =
        (s.after (before.map (·.stimulus))).state ∧
      (s.chronicle (before ++ [m])).spans.map (·.calls) =
        (s.chronicle before).spans.map (·.calls) := by
  have hgoes : (s.after (before.map (·.stimulus))).phase ≠ .stopped := by
    intro hstopped
    obtain ⟨x, hx, hstops⟩ := phase_after_stopped.1 hstopped
    rw [hbefore x hx] at hstops
    cases hstops
  -- only the phase changes
  obtain ⟨n, hnotice, hstops⟩ := Moment.exists_notice h
  refine ⟨hgoes, ?_, ?_, ?_⟩
  · rw [after_concat]
    exact phase_react_stopped.2 (.inr h)
  · rw [after_concat, hnotice]
    exact state_react_notice _ n
  · rw [chronicle, chronicleFrom_append]
    show (Chronicle.next (s.chronicle before) (s.after (before.map (·.stimulus))) m).spans.map _ = _
    unfold Chronicle.next Chronicle.notified
    rw [hnotice]
    dsimp only
    split
    · rfl
    · rw [if_pos hstops]
    · rw [if_pos hstops, Chronicle.calls_close]

/-! ## The schedule -/

/-- The schedule of a scraper, whatever it meets in time. No two cycles are in progress at the same
time. The first one begins at once, and each of the others when the interval after a success or the
error interval after a failure is over, if no notice comes before. Every cycle is a run of the
script with just the calls of the chronicle, and the task is where its last cycle has led it. The
task has stopped from the first notice on that says so or that nobody is left to say anything, in
whatever phase that finds it, and from then on nothing changes and nothing is asked. The cycles that
have begun are those that are counted, those that were given up, each because of a notice of its
own, and the one that is in progress. -/
theorem schedule_is_kept (s : Scraper) {ms : List Moment} (h : s.Timely ms) :
    let t := s.after (ms.map (·.stimulus))
    let c := s.chronicle ms
    (c.spans.Pairwise fun a b => ∀ time, ¬(a.InProgress time ∧ b.InProgress time)) ∧
    ((∃ first later, c.spans = first :: later ∧ first.origin = .start ∧ first.began = 0) ∧
      c.spans.IsChain (Follows s) ∧
      ((∀ m ∈ ms, m.notice? = none) → c.spans.IsChain fun a b => ∃ time,
        (a.fate = .ended time (.ok ()) ∧ b.began = time + s.interval.nanoseconds) ∨
          ∃ e, a.fate = .ended time (.error e) ∧
            b.began = time + s.errorInterval.nanoseconds)) ∧
    ((∀ span ∈ c.spans, span.IsRun s.filters) ∧ ∃ now, c.last.Current s now t.phase) ∧
    ((t.phase = .stopped ↔ ∃ m ∈ ms, m.stops) ∧
      ∀ before m later, ms = before ++ m :: later → m.stops → (∀ x ∈ before, x.stops = false) →
        (s.after (before.map (·.stimulus))).phase ≠ .stopped ∧
          t = s.after ((before ++ [m]).map (·.stimulus)) ∧ c = s.chronicle (before ++ [m]) ∧
          t.state = (s.after (before.map (·.stimulus))).state ∧
          c.spans.map (·.calls) = (s.chronicle before).spans.map (·.calls)) ∧
    c.spans.length = t.state.stats.cycles + (c.spans.filterMap (·.abandoned?)).length +
        t.phase.inProgress ∧
      (c.spans.filterMap (·.abandoned?)).Sublist (ms.filterMap (·.notice?)) := by
  intro t c
  obtain ⟨now, hkept, hcurrent, -⟩ := chronicled_after h
  refine ⟨hkept.pairwise, ⟨hkept.starts, hkept.follows, hkept.timed⟩,
    ⟨hkept.runs, now, hcurrent⟩, ⟨phase_after_stopped, ?_⟩, hkept.length, hkept.abandoned⟩
  intro before m later hms hstops hbefore
  -- what comes behind the notice changes nothing any more
  obtain ⟨hgoes, hstopped, hstate, hcalls⟩ := of_stops (s := s) hstops hbefore
  obtain ⟨hafter, hchronicle⟩ := after_append_of_stopped hstopped later
  rw [← List.append_cons, ← hms] at hafter hchronicle
  exact ⟨hgoes, hafter, hchronicle, (congrArg (·.state) hafter).trans hstate,
    (congrArg (fun c : Chronicle => c.spans.map (·.calls)) hchronicle).trans hcalls⟩

/-- A cycle that fails, one that succeeds, and two that are given up, the second one because nobody
is left to send anything. -/
theorem four_cycles_are_accounted_for :
    let s : Scraper := ⟨.none, ⟨5⟩, ⟨1⟩⟩
    let fails : Stimulus := .answer (fun _ => .error (.transport "https://m")) ⟨3⟩
    let works : Stimulus := .answer (fun
      | .clusterStatus => .ok ⟨⟨some "STABLE"⟩, ⟨some "STABLE", [], []⟩⟩
      | .page _ _ => .ok ⟨[], none, none⟩
      | _ => .error (.transport "https://m")) ⟨1⟩
    let ms : List Moment := [⟨3, fails⟩, ⟨4, .wake⟩, ⟨5, works⟩, ⟨6, works⟩, ⟨7, works⟩, ⟨8, works⟩,
      ⟨13, .wake⟩, ⟨14, .notice (.value false)⟩, ⟨15, .notice .senderGone⟩]
    let t := s.after (ms.map (·.stimulus))
    let spans := (s.chronicle ms).spans
    s.Timely ms ∧ spans.map (·.began) = [0, 4, 13, 14] ∧ t.state.stats.cycles = 2 ∧
      (spans.filterMap (·.abandoned?)).length = 2 ∧ t.phase = .stopped ∧
      (spans.Pairwise fun a b => ∀ time, ¬(a.InProgress time ∧ b.InProgress time)) := by
  intro s fails works ms t spans
  have htimely : s.Timely ms :=
    ⟨⟨by decide, trivial⟩, ⟨by decide, rfl⟩, ⟨by decide, trivial⟩, ⟨by decide, trivial⟩,
      ⟨by decide, trivial⟩, ⟨by decide, trivial⟩, ⟨by decide, rfl⟩, ⟨by decide, trivial⟩,
      ⟨by decide, trivial⟩, trivial⟩
  obtain ⟨hpairwise, -, -, ⟨hstopped, -⟩, hlength, -⟩ := schedule_is_kept s htimely
  have hbegan : spans.map (·.began) = [0, 4, 13, 14] := rfl
  have hcycles : t.state.stats.cycles = 2 := rfl
  have hphase : t.phase = .stopped :=
    hstopped.2 ⟨⟨15, .notice .senderGone⟩, by simp [ms], rfl⟩
  have hfour : spans.length = 4 := by
    rw [← List.length_map (·.began), hbegan]
    rfl
  have hcount : spans.length =
      t.state.stats.cycles + (spans.filterMap (·.abandoned?)).length + t.phase.inProgress := hlength
  rw [hfour, hcycles, hphase] at hcount
  refine ⟨htimely, hbegan, hcycles, ?_, hphase, hpairwise⟩
  show _ = 2
  simp only [Phase.inProgress] at hcount
  omega

end FabricGauges.Scraper
