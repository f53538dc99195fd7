import FabricGauges.Proofs.Scraper.Abandonment
import Mathlib.Data.List.Chain

/-!
# The chronicle of a scraper

When things happen to a scraper at certain times, its cycles begin and end at certain times. The
chronicle lists them: what let each of them begin, the calls it made, and how it ended or by which
notice it was given up. `Scraper.Follows` says how one cycle follows another, and `Scraper.Kept` is
what every single thing that happens preserves.

Time passes outside. What is taken for granted about it is `Scraper.Timely`: an answer comes to an
open request, and a sleep is over exactly when it has lasted as long as it was meant to.
-/

namespace FabricGauges.Scraper

/-! ## Moments -/

/-- Something happens to a scraper at a time, in nanoseconds since its start. -/
structure Moment where
  time : Nat
  stimulus : Stimulus

/-- What is observed on the shutdown channel, and when. -/
def Moment.notice? (m : Moment) : Option (Nat × Notice) :=
  match m.stimulus with
  | .notice n => some (m.time, n)
  | _ => none

/-- Whether a notice is observed that ends the task. -/
def Moment.stops (m : Moment) : Bool := m.notice?.any fun seen => seen.2.stops

/-- What can happen next to a task that has been in a phase since a time. -/
def Phase.Expects (p : Phase) (now : Nat) (m : Moment) : Prop :=
  now ≤ m.time ∧
    match p, m.stimulus with
    | .asking _ _, .wake => False
    | .sleeping _, .answer _ _ => False
    | .sleeping delay, .wake => m.time = now + delay.nanoseconds
    | .sleeping delay, .notice _ => m.time ≤ now + delay.nanoseconds
    | _, _ => True

/-- Moments at which a task can meet what it meets, since a time. -/
def TimelyFrom (s : Scraper) : Task → Nat → List Moment → Prop
  | _, _, [] => True
  | t, now, m :: ms => t.phase.Expects now m ∧ s.TimelyFrom (s.react t m.stimulus) m.time ms

/-- Moments at which a scraper can meet what it meets, since its start. -/
def Timely (s : Scraper) (ms : List Moment) : Prop := s.TimelyFrom (s.start .blank) 0 ms

/-! ## Cycles in time -/

/-- What lets a cycle begin. -/
inductive Origin where
  | start
  | timer
  | notice (n : Notice)

/-- What becomes of a cycle. -/
inductive Fate where
  | running
  | ended (time : Nat) (outcome : Outcome)
  /-- The cycle is given up because of a notice. -/
  | abandoned (time : Nat) (n : Notice)

/-- A cycle in time. -/
structure CycleSpan where
  origin : Origin
  began : Nat
  calls : List Call
  fate : Fate

namespace CycleSpan

/-- A cycle that begins. -/
def beginning (origin : Origin) (time : Nat) : CycleSpan := ⟨origin, time, [], .running⟩

/-- When the cycle was over. -/
def over? (c : CycleSpan) : Option Nat :=
  match c.fate with
  | .running => none
  | .ended time _ | .abandoned time _ => some time

/-- The notice because of which the cycle was given up, and when. -/
def abandoned? (c : CycleSpan) : Option (Nat × Notice) :=
  match c.fate with
  | .abandoned time n => some (time, n)
  | _ => none

/-- The cycle has begun at that time and is not over. -/
def InProgress (c : CycleSpan) (time : Nat) : Prop :=
  c.began ≤ time ∧ ∀ ending, c.over? = some ending → time < ending

/-- The cycle is a run of its script with just these calls: one to the end if it has ended, else one
as far as an open request. -/
def IsRun (filters : Filters) (c : CycleSpan) : Prop :=
  match c.fate with
  | .ended _ outcome => ∃ es, Fetch.Runs (cycle filters) c.calls es outcome
  | _ => ∃ es request resume,
      Script.Reaches (cycle filters).run c.calls es (.asking request resume)

end CycleSpan

/-- How a cycle follows the one before: when the interval is over, earlier if a notice says so, or
in place of one that a notice has ended. -/
inductive Follows (s : Scraper) (a b : CycleSpan) : Prop
  | afterSuccess {time : Nat} (ended : a.fate = .ended time (.ok ())) (timer : b.origin = .timer)
      (began : b.began = time + s.interval.nanoseconds)
  | afterFailure {time : Nat} {e : ScrapeError} (ended : a.fate = .ended time (.error e))
      (timer : b.origin = .timer) (began : b.began = time + s.errorInterval.nanoseconds)
  | early {time : Nat} {outcome : Outcome} {n : Notice} (ended : a.fate = .ended time outcome)
      (notice : b.origin = .notice n) (goes : n.stops = false) (after : time ≤ b.began)
      (within : b.began ≤ time + (s.delay outcome).nanoseconds)
  | instead {time : Nat} {n : Notice} (abandoned : a.fate = .abandoned time n)
      (notice : b.origin = .notice n) (goes : n.stops = false) (began : b.began = time)

/-! ## Chronicles -/

/-- The cycles of a scraper, of which the last may still be running. -/
structure Chronicle where
  past : List CycleSpan
  last : CycleSpan

namespace Chronicle

/-- All cycles, in their order. -/
def spans (c : Chronicle) : List CycleSpan := c.past ++ [c.last]

/-- The chronicle before anything has happened to a scraper. -/
def begun : Chronicle := ⟨[], .beginning .start 0⟩

/-- A new cycle begins. -/
def begin (c : Chronicle) (origin : Origin) (time : Nat) : Chronicle :=
  ⟨c.spans, .beginning origin time⟩

/-- The last cycle is over. -/
def close (c : Chronicle) (fate : Fate) : Chronicle := { c with last := { c.last with fate } }

/-- Closing a cycle changes none of the calls. -/
theorem calls_close (c : Chronicle) (fate : Fate) :
    (c.close fate).spans.map (·.calls) = c.spans.map (·.calls) := by
  unfold spans
  rw [List.map_append, List.map_append]
  rfl

/-- The last cycle has one more call. -/
def answered (c : Chronicle) (call : Call) : Chronicle :=
  { c with last := { c.last with calls := c.last.calls ++ [call] } }

/-- A notice lets a new cycle begin, unless it ends the task. -/
def notified (c : Chronicle) (n : Notice) (time : Nat) : Chronicle :=
  if n.stops then c else c.begin (.notice n) time

/-- The chronicle after something has happened to the task that it is about. -/
def next (c : Chronicle) (t : Task) (m : Moment) : Chronicle :=
  match m.stimulus with
  | .answer reply _ =>
    match t.phase with
    | .asking request resume =>
      match (resume (reply request)).settle.2 with
      | .asking _ _ => c.answered ⟨request, reply request⟩
      | .done outcome => (c.answered ⟨request, reply request⟩).close (.ended m.time outcome)
    | _ => c
  | .wake =>
    match t.phase with
    | .sleeping _ => c.begin .timer m.time
    | _ => c
  | .notice n =>
    match t.phase with
    | .stopped => c
    | .sleeping _ => c.notified n m.time
    | .asking _ _ => (c.close (.abandoned m.time n)).notified n m.time

end Chronicle

/-- The chronicle of a task after some moments. -/
def chronicleFrom (s : Scraper) : Task → Chronicle → List Moment → Chronicle
  | _, c, [] => c
  | t, c, m :: ms => s.chronicleFrom (s.react t m.stimulus) (c.next t m) ms

/-- The chronicle of a scraper after some moments. -/
def chronicle (s : Scraper) (ms : List Moment) : Chronicle :=
  s.chronicleFrom (s.start .blank) .begun ms

/-- How many cycles are in progress in a phase. -/
def Phase.inProgress : Phase → Nat
  | .asking _ _ => 1
  | .sleeping _ | .stopped => 0

/-! ## What every moment preserves -/

variable {s : Scraper}

/-- The last cycle is where a task that has been in a phase since a time is with its cycle. -/
def CycleSpan.Current (s : Scraper) (now : Nat) (c : CycleSpan) : Phase → Prop
  | .asking request resume => c.fate = .running ∧
      ∃ es, Script.Reaches (cycle s.filters).run c.calls es (.asking request resume)
  | .sleeping delay => ∃ outcome, c.fate = .ended now outcome ∧ delay = s.delay outcome
  | .stopped => c.fate ≠ .running

/-- A chronicle is kept: it goes without a gap from the start of the scraper to its last cycle, and
all cycles and all notices that have ended one are accounted for. -/
structure Kept (s : Scraper) (cycles inProgress : Nat) (ms : List Moment)
    (past : List CycleSpan) (last : CycleSpan) : Prop where
  starts : ∃ first later, past ++ [last] = first :: later ∧ first.origin = .start ∧ first.began = 0
  follows : (past ++ [last]).IsChain (Follows s)
  orderly : ∀ span ∈ past ++ [last], ∀ ending, span.over? = some ending → span.began ≤ ending
  runs : ∀ span ∈ past ++ [last], span.IsRun s.filters
  length : (past ++ [last]).length =
    cycles + ((past ++ [last]).filterMap (·.abandoned?)).length + inProgress
  abandoned : ((past ++ [last]).filterMap (·.abandoned?)).Sublist (ms.filterMap (·.notice?))
  noticed : ∀ span ∈ past ++ [last], ∀ n, span.origin = .notice n →
    (span.began, n) ∈ ms.filterMap (·.notice?)

/-- Whether a cycle follows another depends only on its origin and on when it began. -/
theorem Follows.congr {a b b' : CycleSpan} (h : Follows s a b) (horigin : b'.origin = b.origin)
    (hbegan : b'.began = b.began) : Follows s a b' := by
  cases h with
  | afterSuccess ended timer began =>
    exact .afterSuccess ended (horigin.trans timer) (hbegan.trans began)
  | afterFailure ended timer began =>
    exact .afterFailure ended (horigin.trans timer) (hbegan.trans began)
  | early ended notice goes after within =>
    exact .early ended (horigin.trans notice) goes (hbegan ▸ after) (hbegan ▸ within)
  | instead abandoned notice goes began =>
    exact .instead abandoned (horigin.trans notice) goes (hbegan.trans began)

theorem filterMap_concat {α β : Type} (f : α → Option β) (l : List α) (a : α) :
    (l ++ [a]).filterMap f = l.filterMap f ++ (f a).toList := by
  rw [List.filterMap_append]
  cases h : f a <;> simp [h]

namespace Kept

variable {cycles inProgress : Nat} {ms : List Moment} {past : List CycleSpan} {last : CycleSpan}

/-- More may be observed than the chronicle tells. -/
theorem later (h : Kept s cycles inProgress ms past last) (m : Moment) :
    Kept s cycles inProgress (ms ++ [m]) past last := by
  obtain ⟨hstarts, hfollows, horderly, hruns, hlength, habandoned, hnoticed⟩ := h
  have hmore : (ms.filterMap (·.notice?)).Sublist ((ms ++ [m]).filterMap (·.notice?)) :=
    (List.sublist_append_left ms [m]).filterMap _
  exact ⟨hstarts, hfollows, horderly, hruns, hlength, habandoned.trans hmore,
    fun span hspan n hn => hmore.subset (hnoticed span hspan n hn)⟩

/-- The last cycle goes on or comes to its end; it is still the one that began then. -/
theorem relast (h : Kept s cycles inProgress ms past last) (hrunning : last.fate = .running)
    (span : CycleSpan) {m : Moment} (horigin : span.origin = last.origin)
    (hbegan : span.began = last.began)
    (hover : ∀ ending, span.over? = some ending → span.began ≤ ending) (hrun : span.IsRun s.filters)
    (habandoned : span.abandoned?.toList.Sublist m.notice?.toList) {cycles' inProgress' : Nat}
    (hcount : cycles' + span.abandoned?.toList.length + inProgress' = cycles + inProgress) :
    Kept s cycles' inProgress' (ms ++ [m]) past span := by
  obtain ⟨hstarts, hfollows, horderly, hruns, hlength, hgiven, hnoticed⟩ := h
  -- as long as it runs it has not been given up
  have hnone : last.abandoned?.toList = [] := by
    unfold CycleSpan.abandoned?
    rw [hrunning]
    rfl
  rw [filterMap_concat, hnone, List.append_nil] at hlength hgiven
  rw [List.forall_mem_append, List.forall_mem_singleton] at horderly hruns hnoticed
  refine ⟨?_, ?_, ?_, ?_, ?_, ?_, ?_⟩
  · obtain ⟨first, later, hspans, hstart, hzero⟩ := hstarts
    cases past with
    | nil =>
      obtain ⟨rfl, rfl⟩ := List.cons.inj hspans
      exact ⟨span, [], rfl, horigin.trans hstart, hbegan.trans hzero⟩
    | cons earliest past =>
      obtain ⟨rfl, -⟩ := List.cons.inj hspans
      exact ⟨earliest, past ++ [span], rfl, hstart, hzero⟩
  · obtain ⟨hpast, -, hjoin⟩ := List.isChain_append.1 hfollows
    refine List.isChain_append.2 ⟨hpast, .singleton _, fun a ha b hb => ?_⟩
    obtain rfl := Option.some.inj hb
    exact (hjoin a ha last rfl).congr horigin hbegan
  · exact List.forall_mem_append.2 ⟨horderly.1, List.forall_mem_singleton.2 hover⟩
  · exact List.forall_mem_append.2 ⟨hruns.1, List.forall_mem_singleton.2 hrun⟩
  · rw [List.length_append, List.length_singleton] at hlength ⊢
    rw [filterMap_concat, List.length_append]
    omega
  · rw [filterMap_concat, filterMap_concat]
    exact hgiven.append habandoned
  · rw [List.forall_mem_append, List.forall_mem_singleton, List.filterMap_append]
    refine ⟨fun a ha n hn => List.mem_append_left _ (hnoticed.1 a ha n hn), fun n hn => ?_⟩
    rw [hbegan]
    exact List.mem_append_left _ (hnoticed.2 n (horigin ▸ hn))

/-- A new cycle begins, in the way in which one can follow the last. -/
theorem begin (h : Kept s cycles 0 ms past last) {origin : Origin} {time : Nat}
    (hfollows : Follows s last (.beginning origin time))
    (hrun : CycleSpan.IsRun s.filters (.beginning origin time))
    (hnotice : ∀ n, origin = .notice n → (time, n) ∈ ms.filterMap (·.notice?)) :
    Kept s cycles 1 ms (past ++ [last]) (.beginning origin time) := by
  obtain ⟨hstarts, hchain, horderly, hruns, hlength, hgiven, hnoticed⟩ := h
  have hlast : (past ++ [last]).getLast? = some last := List.getLast?_concat
  generalize past ++ [last] = spans at *
  have habandoned : (spans ++ [CycleSpan.beginning origin time]).filterMap (·.abandoned?) =
      spans.filterMap (·.abandoned?) := by
    rw [filterMap_concat]
    exact List.append_nil _
  refine ⟨?_, ?_, ?_, ?_, ?_, ?_, ?_⟩
  · obtain ⟨first, later, rfl, hstart⟩ := hstarts
    exact ⟨first, _, rfl, hstart⟩
  · refine List.isChain_append.2 ⟨hchain, .singleton _, fun a ha b hb => ?_⟩
    obtain rfl := Option.some.inj (hlast.symm.trans ha)
    obtain rfl := Option.some.inj hb
    exact hfollows
  · exact List.forall_mem_append.2 ⟨horderly, List.forall_mem_singleton.2 nofun⟩
  · exact List.forall_mem_append.2 ⟨hruns, List.forall_mem_singleton.2 hrun⟩
  · rw [habandoned, List.length_append, hlength]
    rfl
  · rw [habandoned]
    exact hgiven
  · exact List.forall_mem_append.2 ⟨hnoticed, List.forall_mem_singleton.2 hnotice⟩

end Kept

/-! ## Tasks that have stopped -/

/-- A task that has stopped reacts to nothing. -/
theorem react_of_stopped {t : Task} (h : t.phase = .stopped) (x : Stimulus) : s.react t x = t := by
  unfold Scraper.react
  cases x <;> rw [h]

theorem Chronicle.next_of_stopped {t : Task} (h : t.phase = .stopped) (c : Chronicle)
    (m : Moment) : c.next t m = c := by
  unfold Chronicle.next
  cases m.stimulus <;> rw [h]

/-! ## Tasks and their chronicles -/

/-- A chronicle is that of a task which has been in its phase since a time. -/
structure Chronicled (s : Scraper) (t : Task) (now : Nat) (ms : List Moment) (c : Chronicle) :
    Prop where
  kept : Kept s t.state.stats.cycles t.phase.inProgress ms c.past c.last
  current : c.last.Current s now t.phase
  began : c.last.began ≤ now

theorem CycleSpan.isRun_of_asking {span : CycleSpan}
    (hfate : ∀ time outcome, span.fate ≠ .ended time outcome) {es : List Script.Effect}
    {request : Request} {resume : Except ApiError request.Answer → Script Outcome}
    (h : Script.Reaches (cycle s.filters).run span.calls es (.asking request resume)) :
    span.IsRun s.filters := by
  unfold CycleSpan.IsRun
  split
  · next time outcome hended => exact absurd hended (hfate time outcome)
  · exact ⟨es, request, resume, h⟩

theorem cycles_record (state : State) (outcome : Outcome) (took : Duration) :
    (state.record outcome took).stats.cycles = state.stats.cycles + 1 := by
  cases outcome with
  | ok _ => rfl
  | error _ => rfl

namespace Chronicled

variable {t : Task} {now : Nat} {ms : List Moment} {c : Chronicle} {m : Moment}

/-- A task begins a cycle. -/
theorem begin {state : State} (h : Kept s state.stats.cycles 0 ms c.past c.last)
    {origin : Origin} {time : Nat} (hfollows : Follows s c.last (.beginning origin time))
    (hnotice : ∀ n, origin = .notice n → (time, n) ∈ ms.filterMap (·.notice?))
    (logged : List Event) :
    Chronicled s (s.beginCycle state logged) time ms (c.begin origin time) := by
  have hreaches := Script.Reaches.here (cycle s.filters).run
  have hrun : CycleSpan.IsRun s.filters (.beginning origin time) :=
    CycleSpan.isRun_of_asking nofun hreaches
  exact ⟨h.begin hfollows hrun hnotice, ⟨rfl, _, hreaches⟩, Nat.le_refl _⟩

/-- What a task is answered belongs to its cycle, which goes on or ends. -/
theorem answered (h : Chronicled s t now ms c) (hnow : now ≤ m.time) {request : Request}
    {resume : Except ApiError request.Answer → Script Outcome}
    (hphase : t.phase = .asking request resume) {reply : (r : Request) → Except ApiError r.Answer}
    {took : Duration} (hm : m.stimulus = .answer reply took) :
    Chronicled s (s.react t m.stimulus) m.time (ms ++ [m]) (c.next t m) := by
  obtain ⟨past, ⟨origin, began, calls, fate⟩⟩ := c
  obtain ⟨hkept, hcurrent, hbegan⟩ := h
  rw [hphase] at hkept hcurrent
  obtain ⟨hrunning, es, hreaches⟩ := hcurrent
  obtain rfl : fate = .running := hrunning
  have hover : began ≤ m.time := Nat.le_trans hbegan hnow
  have hanswered := hreaches.answered (reply request)
  unfold Chronicle.next Scraper.react
  rw [hm, hphase]
  dsimp only
  unfold proceed
  generalize (resume (reply request)).settle = settled at hanswered
  obtain ⟨effects, suspension⟩ := settled
  -- the cycle waits for the next answer, or it has ended
  cases suspension with
  | asking request' resume' =>
    let span : CycleSpan := ⟨origin, began, calls ++ [⟨request, reply request⟩], .running⟩
    have hrun : span.IsRun s.filters := CycleSpan.isRun_of_asking nofun hanswered
    refine ⟨?_, ⟨rfl, _, hanswered⟩, hover⟩
    exact hkept.relast rfl span rfl rfl nofun hrun (List.nil_sublist _) rfl
  | done outcome =>
    let span : CycleSpan :=
      ⟨origin, began, calls ++ [⟨request, reply request⟩], .ended m.time outcome⟩
    have hrun : span.IsRun s.filters := ⟨_, hanswered⟩
    have hends : ∀ ending, some m.time = some ending → began ≤ ending := by
      intro ending htime
      rw [← Option.some.inj htime]
      exact hover
    refine ⟨?_, ⟨outcome, rfl, rfl⟩, hover⟩
    rw [cycles_record]
    exact hkept.relast rfl span rfl rfl hends hrun (List.nil_sublist _) rfl

/-- A notice lets a task go on with a new cycle at once, unless it ends the task. -/
theorem notified {n : Notice} (hm : m.stimulus = .notice n) (hphase : t.phase ≠ .stopped)
    (hkept : Kept s t.state.stats.cycles 0 (ms ++ [m]) c.past c.last)
    (hover : c.last.fate ≠ .running) (hbegan : c.last.began ≤ m.time)
    (hfollows : n.stops = false → Follows s c.last (.beginning (.notice n) m.time)) :
    Chronicled s (s.react t m.stimulus) m.time (ms ++ [m]) (c.notified n m.time) := by
  have hnotice : (m.time, n) ∈ (ms ++ [m]).filterMap (·.notice?) := by
    rw [filterMap_concat, Moment.notice?, hm]
    exact List.mem_append_right _ List.mem_cons_self
  have hreact : s.react t m.stimulus =
      if n.stops then { t with phase := .stopped, logged := t.logged ++ [.scraperStopped] }
      else s.beginCycle t.state t.logged := by
    unfold Scraper.react
    rw [hm]
    dsimp only
    split
    · next hstopped => exact absurd hstopped hphase
    · rfl
  unfold Chronicle.notified
  rw [hreact]
  -- the task ends, or the next cycle begins at that moment
  by_cases hstops : n.stops
  · rw [if_pos hstops, if_pos hstops]
    exact ⟨hkept, hover, hbegan⟩
  · rw [if_neg hstops, if_neg hstops]
    refine begin hkept (hfollows (Bool.not_eq_true _ ▸ hstops)) (fun n' hn' => ?_) t.logged
    obtain rfl := Origin.notice.inj hn'
    exact hnotice

/-- A notice ends the cycle that a task is in. -/
theorem abandoned (h : Chronicled s t now ms c) (hnow : now ≤ m.time) {request : Request}
    {resume : Except ApiError request.Answer → Script Outcome}
    (hphase : t.phase = .asking request resume) {n : Notice} (hm : m.stimulus = .notice n) :
    Chronicled s (s.react t m.stimulus) m.time (ms ++ [m]) (c.next t m) := by
  obtain ⟨past, ⟨origin, began, calls, fate⟩⟩ := c
  obtain ⟨hkept, hcurrent, hbegan⟩ := h
  rw [hphase] at hkept hcurrent
  obtain ⟨hrunning, es, hreaches⟩ := hcurrent
  obtain rfl : fate = .running := hrunning
  have hover : began ≤ m.time := Nat.le_trans hbegan hnow
  let span : CycleSpan := ⟨origin, began, calls, .abandoned m.time n⟩
  have hrun : span.IsRun s.filters := CycleSpan.isRun_of_asking nofun hreaches
  have hends : ∀ ending, some m.time = some ending → began ≤ ending := by
    intro ending htime
    rw [← Option.some.inj htime]
    exact hover
  have hgiven : span.abandoned?.toList.Sublist m.notice?.toList := by
    unfold Moment.notice?
    rw [hm]
    exact List.Sublist.refl _
  have hkept' : Kept s t.state.stats.cycles 0 (ms ++ [m]) past span :=
    hkept.relast rfl span rfl rfl hends hrun hgiven rfl
  have hnext : Chronicle.next ⟨past, ⟨origin, began, calls, .running⟩⟩ t m =
      Chronicle.notified ⟨past, span⟩ n m.time := by
    unfold Chronicle.next
    rw [hm, hphase]
    rfl
  have hasking : t.phase ≠ .stopped := by
    rw [hphase]
    nofun
  rw [hnext]
  refine notified (c := ⟨past, span⟩) hm hasking hkept' nofun hover fun hgoes => ?_
  exact .instead rfl rfl hgoes rfl

/-- A sleep is over, or a notice ends it before. -/
theorem woken (h : Chronicled s t now ms c) {delay : Duration} (hphase : t.phase = .sleeping delay)
    (hm : t.phase.Expects now m) :
    Chronicled s (s.react t m.stimulus) m.time (ms ++ [m]) (c.next t m) := by
  obtain ⟨hnow, hexpects⟩ := hm
  obtain ⟨hkept, hcurrent, hbegan⟩ := h
  rw [hphase] at hkept hcurrent hexpects
  obtain ⟨outcome, hended, rfl⟩ := hcurrent
  have hkept' : Kept s t.state.stats.cycles 0 (ms ++ [m]) c.past c.last := hkept.later m
  -- no answer comes in a sleep
  cases hstimulus : m.stimulus with
  | answer reply took =>
    rw [hstimulus] at hexpects
    exact hexpects.elim
  | wake =>
    rw [hstimulus] at hexpects
    have hfollows : Follows s c.last (.beginning .timer m.time) := by
      cases outcome with
      | ok _ => exact .afterSuccess hended rfl hexpects
      | error e => exact .afterFailure hended rfl hexpects
    have hreact : s.react t .wake = s.beginCycle t.state t.logged := by
      unfold Scraper.react
      rw [hphase]
    have hnext : c.next t m = c.begin .timer m.time := by
      unfold Chronicle.next
      rw [hstimulus, hphase]
    rw [hreact, hnext]
    exact begin hkept' hfollows nofun t.logged
  | notice n =>
    rw [hstimulus] at hexpects
    have hsleeping : t.phase ≠ .stopped := by
      rw [hphase]
      nofun
    have hover : c.last.fate ≠ .running := by
      rw [hended]
      nofun
    have hnext : c.next t m = c.notified n m.time := by
      unfold Chronicle.next
      rw [hstimulus, hphase]
    rw [hnext, ← hstimulus]
    refine notified hstimulus hsleeping hkept' hover (Nat.le_trans hbegan hnow) fun hgoes => ?_
    exact .early hended rfl hgoes hnow hexpects

/-- Whatever happens to a task, its chronicle goes along. -/
theorem react (h : Chronicled s t now ms c) (hm : t.phase.Expects now m) :
    Chronicled s (s.react t m.stimulus) m.time (ms ++ [m]) (c.next t m) := by
  -- what may come depends on the phase
  cases hphase : t.phase with
  | sleeping delay => exact h.woken hphase hm
  | asking request resume =>
    obtain ⟨hnow, hexpects⟩ := hm
    cases hstimulus : m.stimulus with
    | answer reply took =>
      rw [← hstimulus]
      exact h.answered hnow hphase hstimulus
    | wake =>
      rw [hphase, hstimulus] at hexpects
      exact hexpects.elim
    | notice n =>
      rw [← hstimulus]
      exact h.abandoned hnow hphase hstimulus
  | stopped =>
    rw [react_of_stopped hphase, Chronicle.next_of_stopped hphase]
    refine ⟨h.kept.later m, ?_, Nat.le_trans h.began hm.1⟩
    have hcurrent := h.current
    rw [hphase] at hcurrent ⊢
    exact hcurrent

/-- Whatever a task meets in time, its chronicle goes along. -/
theorem run {ms' : List Moment} (h : Chronicled s t now ms c) (ht : s.TimelyFrom t now ms') :
    ∃ now', Chronicled s ((ms'.map (·.stimulus)).foldl s.react t) now' (ms ++ ms')
      (s.chronicleFrom t c ms') := by
  induction ms' generalizing t now ms c with
  | nil =>
    rw [List.append_nil]
    exact ⟨now, h⟩
  | cons m ms' ih =>
    rw [List.append_cons]
    exact ih (h.react ht.1) ht.2

end Chronicled

theorem chronicled_start (s : Scraper) : Chronicled s (s.start .blank) 0 [] .begun := by
  have hreaches := Script.Reaches.here (cycle s.filters).run
  have hrun : CycleSpan.IsRun s.filters (.beginning .start 0) :=
    CycleSpan.isRun_of_asking nofun hreaches
  have hkept : Kept s 0 1 [] [] (.beginning .start 0) := by
    refine ⟨⟨_, [], rfl, rfl, rfl⟩, .singleton _, ?_, ?_, rfl, .slnil, ?_⟩
    · exact List.forall_mem_singleton.2 nofun
    · exact List.forall_mem_singleton.2 hrun
    · exact List.forall_mem_singleton.2 nofun
  exact ⟨hkept, ⟨rfl, _, hreaches⟩, Nat.le_refl 0⟩

/-- Whatever happens to a scraper in time, its chronicle goes along. -/
theorem chronicled_after {ms : List Moment} (h : s.Timely ms) :
    ∃ now, Chronicled s (s.after (ms.map (·.stimulus))) now ms (s.chronicle ms) :=
  (chronicled_start s).run h

end FabricGauges.Scraper
