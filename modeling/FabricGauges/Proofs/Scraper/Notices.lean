import FabricGauges.Launch.Exporter
import FabricGauges.Proofs.Scraper.Schedule

/-!
# Values that are no stop

The value on the shutdown channel can be set without asking for a stop. The endpoint takes no notice
of that, and neither does a scraper that has stopped. Any other scraper gives up what it is doing, a
cycle as well as a sleep, and begins with a new cycle. To tell a run with such a value from one
without it, the requests of a scraper are listed with the times at which they are made.
-/

namespace FabricGauges.Scraper

variable {s : Scraper} {t : Task}

/-! ## Requests in time -/

/-- The request that is open in a phase. -/
def Phase.request? : Phase → Option Request
  | .asking request _ => some request
  | .sleeping _ | .stopped => none

/-- The request that a task makes when something happens to it. While a request is open, the end of
a sleep is nothing that happens. -/
def Task.asks? (s : Scraper) (t : Task) (x : Stimulus) : Option Request :=
  match t.phase, x with
  | .asking _ _, .wake => none
  | _, _ => (s.react t x).phase.request?

/-- The requests that a task makes, with their times. -/
def asksFrom (s : Scraper) : Task → List Moment → List (Nat × Request)
  | _, [] => []
  | t, m :: ms =>
    ((t.asks? s m.stimulus).map (m.time, ·)).toList ++ s.asksFrom (s.react t m.stimulus) ms

/-- The requests that a scraper makes, with their times. -/
def asks (s : Scraper) (ms : List Moment) : List (Nat × Request) :=
  ((s.start .blank).phase.request?.map (0, ·)).toList ++ s.asksFrom (s.start .blank) ms

theorem asksFrom_append (t : Task) (ms ms' : List Moment) :
    s.asksFrom t (ms ++ ms') =
      s.asksFrom t ms ++ s.asksFrom ((ms.map (·.stimulus)).foldl s.react t) ms' := by
  induction ms generalizing t with
  | nil => rfl
  | cons m ms ih =>
    rw [List.cons_append, asksFrom, asksFrom, ih, List.append_assoc]
    rfl

theorem asks_append (ms ms' : List Moment) :
    s.asks (ms ++ ms') = s.asks ms ++ s.asksFrom (s.after (ms.map (·.stimulus))) ms' := by
  rw [asks, asks, asksFrom_append, List.append_assoc]
  rfl

theorem asksFrom_of_stopped (h : t.phase = .stopped) (ms : List Moment) : s.asksFrom t ms = [] := by
  induction ms with
  | nil => rfl
  | cons m ms ih =>
    have hasks : t.asks? s m.stimulus = none := by
      unfold Task.asks?
      rw [react_of_stopped h, h]
      rfl
    rw [asksFrom, hasks, react_of_stopped h, ih]
    rfl

/-- A request is made when something happens. -/
theorem exists_moment_of_mem_asksFrom {ms : List Moment} {a : Nat × Request}
    (h : a ∈ s.asksFrom t ms) : ∃ m ∈ ms, m.time = a.1 := by
  induction ms generalizing t with
  | nil => cases h
  | cons m ms ih =>
    rcases List.mem_append.1 h with h | h
    · obtain ⟨request, -, rfl⟩ := Option.map_eq_some_iff.1 (Option.mem_toList.1 h)
      exact ⟨m, List.mem_cons_self, rfl⟩
    · obtain ⟨m', hm', htime⟩ := ih h
      exact ⟨m', List.mem_cons_of_mem _ hm', htime⟩

/-! ## What a value that is no stop does -/

theorem logged_beginCycle (state : State) (logged : List Event) :
    (s.beginCycle state logged).logged = logged := List.append_nil logged

/-- A notice that is no stop lets a task begin with a new cycle, whatever it is doing. -/
theorem react_of_goes {n : Notice} (hgoes : n.stops = false) (h : t.phase ≠ .stopped) :
    s.react t (.notice n) = s.beginCycle t.state t.logged := by
  unfold react
  dsimp only
  split
  · next hstopped => exact absurd hstopped h
  · rw [hgoes]
    rfl

theorem asks?_of_goes {n : Notice} (hgoes : n.stops = false) (h : t.phase ≠ .stopped) :
    t.asks? s (.notice n) = some .clusterStatus := by
  have hasks : t.asks? s (.notice n) = (s.react t (.notice n)).phase.request? := by
    unfold Task.asks?
    cases t.phase <;> rfl
  rw [hasks, react_of_goes hgoes h]
  rfl

theorem asksFrom_of_goes {n : Notice} (hgoes : n.stops = false) (h : t.phase ≠ .stopped)
    (time : Nat) (ms : List Moment) :
    s.asksFrom t (⟨time, .notice n⟩ :: ms) =
      (time, .clusterStatus) :: s.asksFrom (s.beginCycle t.state t.logged) ms := by
  rw [asksFrom, asks?_of_goes hgoes h, react_of_goes hgoes h]
  rfl

/-- Whatever is done without the value, the value makes the requests others: the first one that
follows comes when the value does. -/
theorem asks_ne_of_goes {before : List Moment} {n : Notice} (hgoes : n.stops = false)
    (h : (s.after (before.map (·.stimulus))).phase ≠ .stopped) {time : Nat}
    (later : List Moment) {without : List Moment} (hlater : ∀ x ∈ without, time < x.time) :
    s.asks (before ++ ⟨time, .notice n⟩ :: later) ≠ s.asks (before ++ without) := by
  intro hsame
  rw [asks_append, asks_append, asksFrom_of_goes hgoes h] at hsame
  have hmem : (time, Request.clusterStatus) ∈
      s.asksFrom (s.after (before.map (·.stimulus))) without := by
    rw [← List.append_cancel_left hsame]
    exact List.mem_cons_self
  obtain ⟨x, hx, htime⟩ := exists_moment_of_mem_asksFrom hmem
  exact absurd (hlater x hx) (htime ▸ Nat.lt_irrefl time)

/-- A scraper that has stopped goes on as if no notice had come. -/
theorem after_notice_of_stopped {before : List Moment}
    (h : (s.after (before.map (·.stimulus))).phase = .stopped) (m : Moment)
    (later : List Moment) :
    s.after ((before ++ m :: later).map (·.stimulus)) =
        s.after ((before ++ later).map (·.stimulus)) ∧
      s.chronicle (before ++ m :: later) = s.chronicle (before ++ later) ∧
      s.asks (before ++ m :: later) = s.asks (before ++ later) := by
  obtain ⟨hafter, hchronicle⟩ := after_append_of_stopped h (m :: later)
  obtain ⟨hafter', hchronicle'⟩ := after_append_of_stopped h later
  refine ⟨hafter.trans hafter'.symm, hchronicle.trans hchronicle'.symm, ?_⟩
  rw [asks_append, asks_append, asksFrom_of_stopped h, asksFrom_of_stopped h]

/-- The chronicle of a scraper after one more moment. -/
theorem chronicle_concat (before : List Moment) (m : Moment) :
    s.chronicle (before ++ [m]) =
      (s.chronicle before).next (s.after (before.map (·.stimulus))) m := by
  rw [chronicle, chronicleFrom_append]
  rfl

/-- A notice that is no stop gives up the cycle that a task is in. -/
theorem chronicle_notice_of_asking {before : List Moment} {n : Notice} (hgoes : n.stops = false)
    {request : Request} {resume : Except ApiError request.Answer → Script Outcome}
    (h : (s.after (before.map (·.stimulus))).phase = .asking request resume) (time : Nat) :
    s.chronicle (before ++ [⟨time, .notice n⟩]) =
      ((s.chronicle before).close (.abandoned time n)).begin (.notice n) time := by
  rw [chronicle_concat]
  unfold Chronicle.next
  rw [h]
  exact if_neg (Bool.eq_false_iff.1 hgoes)

/-- A notice that is no stop ends the sleep of a task. -/
theorem chronicle_notice_of_sleeping {before : List Moment} {n : Notice} (hgoes : n.stops = false)
    {delay : Duration} (h : (s.after (before.map (·.stimulus))).phase = .sleeping delay)
    (time : Nat) :
    s.chronicle (before ++ [⟨time, .notice n⟩]) = (s.chronicle before).begin (.notice n) time := by
  rw [chronicle_concat]
  unfold Chronicle.next
  rw [h]
  exact if_neg (Bool.eq_false_iff.1 hgoes)

/-- The chronicle goes along until just before a moment, and that can come then. -/
theorem chronicled_before {before : List Moment} {m : Moment} (h : s.Timely (before ++ [m])) :
    ∃ now, Chronicled s (s.after (before.map (·.stimulus))) now before (s.chronicle before) ∧
      (s.after (before.map (·.stimulus))).phase.Expects now m := by
  have hrun : ∀ (t : Task) (now : Nat) (ms : List Moment) (c : Chronicle), Chronicled s t now ms c →
      s.TimelyFrom t now (before ++ [m]) → ∃ now',
        Chronicled s ((before.map (·.stimulus)).foldl s.react t) now' (ms ++ before)
          (s.chronicleFrom t c before) ∧
        ((before.map (·.stimulus)).foldl s.react t).phase.Expects now' m := by
    clear h
    induction before with
    | nil =>
      intro t now ms c hchronicled htimely
      rw [List.append_nil]
      exact ⟨now, hchronicled, htimely.1⟩
    | cons first before ih =>
      intro t now ms c hchronicled htimely
      rw [List.append_cons ms]
      exact ih _ _ _ _ (hchronicled.react htimely.1) htimely.2
  exact hrun _ _ [] _ (chronicled_start s) h

/-- A notice that is no stop does nothing to the endpoint. -/
theorem endpoint_notice_of_goes (e : Exporter) {n : Notice} (hgoes : n.stops = false) :
    (e.notice n).endpoint = e.endpoint := by
  have hignored : ∀ endpoint : Endpoint, endpoint.notice n = endpoint := by
    intro endpoint
    rw [Endpoint.notice, hgoes, Bool.and_false]
    rfl
  unfold Exporter.notice Exporter.react
  dsimp only
  cases e.endpoint with
  | error fault => rfl
  | ok endpoint => exact congrArg Except.ok (hignored endpoint)

/-! ## Runs with and without a value -/

/-- A value on the shutdown channel that is no stop never changes anything for the endpoint. For the
scraper it changes nothing if, and only if, the task has stopped: then all that comes is as it would
be without the value. Otherwise the board, the statistics and the log are left as they are at that
moment, but the cycle in progress is given up, or the sleep ends however long it should have lasted,
and a new cycle begins and makes its first request; so whatever follows, the requests with their
times are not those of a run that goes on without the value. As long as every notice is a stop, each
cycle runs to its end but for the last, and the next begins when the whole interval, or error
interval, is over. -/
theorem value_without_stop_disturbs_until_stopped (s : Scraper) :
    (∀ e : Exporter, (e.notice (.value false)).endpoint = e.endpoint) ∧
    (∀ (before : List Moment) (time : Nat),
      s.Timely (before ++ [⟨time, .notice (.value false)⟩]) →
      let m : Moment := ⟨time, .notice (.value false)⟩
      let t := s.after (before.map (·.stimulus))
      let c := s.chronicle before
      (t.phase = .stopped → ∀ later,
        s.after ((before ++ m :: later).map (·.stimulus)) =
            s.after ((before ++ later).map (·.stimulus)) ∧
          s.chronicle (before ++ m :: later) = s.chronicle (before ++ later) ∧
          s.asks (before ++ m :: later) = s.asks (before ++ later)) ∧
      (t.phase ≠ .stopped →
        let t' := s.after ((before ++ [m]).map (·.stimulus))
        t'.state = t.state ∧ t'.logged = t.logged ∧
          (∃ next, t'.phase = .asking .clusterStatus next) ∧
          (∀ request resume, t.phase = .asking request resume → s.chronicle (before ++ [m]) =
            (c.close (.abandoned time (.value false))).begin (.notice (.value false)) time) ∧
          (∀ delay, t.phase = .sleeping delay → ∃ ending outcome,
            c.last.fate = .ended ending outcome ∧ delay = s.delay outcome ∧ ending ≤ time ∧
              time ≤ ending + delay.nanoseconds ∧
              s.chronicle (before ++ [m]) = c.begin (.notice (.value false)) time) ∧
          ∀ later without, (∀ x ∈ without, time < x.time) →
            s.asks (before ++ m :: later) ≠ s.asks (before ++ without))) ∧
    ∀ ms : List Moment, s.Timely ms →
      (∀ m ∈ ms, ∀ seen, m.notice? = some seen → seen.2.stops) →
      (s.chronicle ms).spans.IsChain fun a b => ∃ time,
        (a.fate = .ended time (.ok ()) ∧ b.began = time + s.interval.nanoseconds) ∨
          ∃ e, a.fate = .ended time (.error e) ∧
            b.began = time + s.errorInterval.nanoseconds := by
  refine ⟨fun e => ?_, fun before time h => ?_, fun ms h hstops => ?_⟩
  · exact endpoint_notice_of_goes e rfl
  · intro m t c
    obtain ⟨now, ⟨-, hcurrent, -⟩, hexpects⟩ := chronicled_before h
    refine ⟨fun hstopped => after_notice_of_stopped hstopped m, fun hgoes => ?_⟩
    -- a task that has not stopped begins a new cycle at once
    have hreact : s.after ((before ++ [m]).map (·.stimulus)) = s.beginCycle t.state t.logged :=
      (after_concat before m).trans (react_of_goes rfl hgoes)
    intro t'
    refine ⟨?_, ?_, ?_, fun request resume hasking => ?_, fun delay hsleeping => ?_,
      fun later without hlater => ?_⟩
    · rw [show t' = s.react t m.stimulus from after_concat before m]
      exact state_react_notice t (.value false)
    · rw [show t' = _ from hreact]
      exact logged_beginCycle _ _
    · rw [show t' = _ from hreact]
      exact ⟨_, rfl⟩
    · exact chronicle_notice_of_asking rfl hasking time
    · obtain ⟨hnow, hwithin⟩ := hexpects
      rw [show (s.after (before.map (·.stimulus))).phase = .sleeping delay from hsleeping]
        at hcurrent hwithin
      obtain ⟨outcome, hended, hdelay⟩ := hcurrent
      exact ⟨now, outcome, hended, hdelay, hnow, hwithin,
        chronicle_notice_of_sleeping rfl hsleeping time⟩
    · exact asks_ne_of_goes rfl hgoes later hlater
  · obtain ⟨-, hkept, -⟩ := chronicled_after h
    exact hkept.timed_of_stops hstops

/-- The value comes after a cycle's first answer, which is lost with that cycle. -/
theorem value_without_stop_gives_up_cycle :
    let s : Scraper := ⟨.none, ⟨10⟩, ⟨2⟩⟩
    let before : List Moment := [⟨1, .answer (fun
      | .clusterStatus => .ok ⟨⟨some "STABLE"⟩, ⟨some "STABLE", [], []⟩⟩
      | _ => .error (.transport "https://m")) ⟨1⟩⟩]
    let m : Moment := ⟨3, .notice (.value false)⟩
    s.Timely (before ++ [m]) ∧ (s.after (before.map (·.stimulus))).phase ≠ .stopped ∧
      (s.after ((before ++ [m]).map (·.stimulus))).state.stats = .blank ∧
      s.chronicle (before ++ [m]) =
        ((s.chronicle before).close (.abandoned 3 (.value false))).begin (.notice (.value false)) 3 ∧
      s.asks (before ++ m :: []) ≠ s.asks (before ++ []) := by
  intro s before m
  have htimely : s.Timely (before ++ [m]) :=
    ⟨⟨by decide, trivial⟩, ⟨by decide, trivial⟩, trivial⟩
  have hasking : ∃ resume, (s.after (before.map (·.stimulus))).phase =
      .asking (.page .balancers none) resume := ⟨_, rfl⟩
  obtain ⟨resume, hphase⟩ := hasking
  have hgoes : (s.after (before.map (·.stimulus))).phase ≠ .stopped := by
    rw [hphase]
    nofun
  obtain ⟨hstate, -, -, hgivenUp, -, hasks⟩ :=
    ((value_without_stop_disturbs_until_stopped s).2.1 before 3 htimely).2 hgoes
  refine ⟨htimely, hgoes, ?_, hgivenUp _ _ hphase, hasks [] [] nofun⟩
  exact congrArg State.stats hstate

/-- The value comes in the middle of the sleep after a success, so the next cycle begins when only
half of the interval is over. -/
theorem value_without_stop_ends_sleep :
    let s : Scraper := ⟨.none, ⟨10⟩, ⟨2⟩⟩
    let works : Stimulus := .answer (fun
      | .clusterStatus => .ok ⟨⟨some "STABLE"⟩, ⟨some "STABLE", [], []⟩⟩
      | .page _ _ => .ok ⟨[], none, none⟩
      | _ => .error (.transport "https://m")) ⟨0⟩
    let before : List Moment := [⟨0, works⟩, ⟨0, works⟩, ⟨0, works⟩, ⟨0, works⟩]
    let first : List (Nat × Request) := [(0, .clusterStatus), (0, .page .balancers none),
      (0, .page (.gateways .tier1) none), (0, .page (.gateways .tier0) none)]
    s.Timely (before ++ [⟨5, .notice (.value false)⟩]) ∧ s.Timely (before ++ [⟨10, .wake⟩]) ∧
      s.asks (before ++ [⟨5, .notice (.value false)⟩]) = first ++ [(5, .clusterStatus)] ∧
      s.asks (before ++ [⟨10, .wake⟩]) = first ++ [(10, .clusterStatus)] := by
  intro s works before first
  refine ⟨?_, ?_, rfl, rfl⟩
  · exact ⟨⟨by decide, trivial⟩, ⟨by decide, trivial⟩, ⟨by decide, trivial⟩, ⟨by decide, trivial⟩,
      ⟨by decide, (by decide : 5 ≤ 10)⟩, trivial⟩
  · exact ⟨⟨by decide, trivial⟩, ⟨by decide, trivial⟩, ⟨by decide, trivial⟩, ⟨by decide, trivial⟩,
      ⟨by decide, rfl⟩, trivial⟩

end FabricGauges.Scraper
