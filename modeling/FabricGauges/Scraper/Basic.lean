import FabricGauges.Cycle.Basic
import FabricGauges.Gauge.Board

/-!
# The scraper

The scraper runs one cycle after the other. When a cycle ends, the board and the statistics are
brought up to date in one step; then the scraper waits, for the interval after a success and for the
error interval after a failure.

A task is the scraper at a moment at which it waits, for an answer or for a timer, or at which it
has stopped. What can happen to it is an answer, the end of its sleep, and a notice on the shutdown
channel: a cycle that is running when a notice arrives is given up, a stop ends the task, and any
other notice starts a new cycle at once.
-/

namespace FabricGauges

/-- What is known about the cycles so far. -/
structure ScrapeStats where
  cycles : Nat
  successes : Nat
  failures : Nat
  lastDuration : Option Duration
  lastError : Option String
deriving DecidableEq, Repr

/-- Before the first cycle. -/
def ScrapeStats.blank : ScrapeStats := ⟨0, 0, 0, none, none⟩

/-- How a scraper is set up. -/
structure Scraper where
  filters : Filters
  interval : Duration
  errorInterval : Duration

/-- A board and the statistics of its cycles. -/
structure Scraper.State where
  board : Board
  stats : ScrapeStats

/-- How a cycle ended. -/
abbrev Outcome := Except ScrapeError Unit

/-- The board after a cycle has ended. -/
def Board.record (b : Board) (outcome : Outcome) (took : Duration) : Board :=
  match outcome with
  | .ok () => b.succeed took
  | .error _ => b.fail

/-- The statistics after a cycle has ended. -/
def ScrapeStats.record (s : ScrapeStats) (outcome : Outcome) (took : Duration) : ScrapeStats :=
  match outcome with
  | .ok () =>
    { s with
      cycles := s.cycles + 1
      successes := s.successes + 1
      lastDuration := some took
      lastError := none }
  | .error e =>
    { s with
      cycles := s.cycles + 1
      failures := s.failures + 1
      lastError := some e.message }

/-- What is logged when a cycle has ended. -/
def ScrapeStats.recorded (s : ScrapeStats) (outcome : Outcome) (took : Duration) : Event :=
  match outcome with
  | .ok () => .cycleCompleted took.milliseconds s.cycles
  | .error e => .cycleFailed e.message s.cycles

namespace Scraper

/-- A blank board and no cycles. -/
def State.blank : State := ⟨.blank, .blank⟩

/-- The state after a cycle has ended. -/
def State.record (s : State) (outcome : Outcome) (took : Duration) : State :=
  ⟨s.board.record outcome took, s.stats.record outcome took⟩

/-- How long to wait after a cycle. -/
def delay (s : Scraper) (outcome : Outcome) : Duration :=
  match outcome with
  | .ok () => s.interval
  | .error _ => s.errorInterval

/-! ## Effects -/

/-- The board after the effects of a script. -/
def applyEffects (b : Board) (effects : List Script.Effect) : Board :=
  effects.foldl (fun b effect =>
    match effect with
    | .log _ => b
    | .publish stage samples => b.publish stage samples) b

/-- What the effects of a script log. -/
def loggedBy (effects : List Script.Effect) : List Event :=
  effects.filterMap fun effect =>
    match effect with
    | .log event => some event
    | .publish _ _ => none

/-! ## The task -/

/-- What a task is waiting for. -/
inductive Phase where
  | asking (request : Request) (resume : Except ApiError request.Answer → Script Outcome)
  | sleeping (delay : Duration)
  | stopped

/-- The scraper at a moment at which it waits. -/
structure Task where
  state : State
  phase : Phase
  /-- Everything logged so far. -/
  logged : List Event

/-- Goes on with a cycle until it asks or has ended; `took` is how long it has been running. -/
def proceed (s : Scraper) (state : State) (logged : List Event) (script : Script Outcome)
    (took : Duration) : Task :=
  let (effects, suspension) := script.settle
  let state := { state with board := applyEffects state.board effects }
  let logged := logged ++ loggedBy effects
  match suspension with
  -- what has been published stays published while the cycle waits
  | .asking request resume => ⟨state, .asking request resume, logged⟩
  | .done outcome =>
    let state := state.record outcome took
    ⟨state, .sleeping (s.delay outcome), logged ++ [state.stats.recorded outcome took]⟩

/-- The first step of a new cycle. -/
def beginCycle (s : Scraper) (state : State) (logged : List Event) : Task :=
  s.proceed state logged (cycle s.filters).run ⟨0⟩

/-- The task at its start. -/
def start (s : Scraper) (state : State) : Task :=
  s.beginCycle state [.scraperStarted s.interval.seconds s.errorInterval.seconds]

/-- What arrives on the shutdown channel. -/
inductive Notice where
  | value (stop : Bool)
  /-- Nobody is left who could send anything. -/
  | senderGone
deriving DecidableEq, Repr

/-- Whether a notice ends the task. -/
def Notice.stops : Notice → Bool
  | .value stop => stop
  | .senderGone => true

/-- What can happen to a task. -/
inductive Stimulus where
  /-- The manager answers the open request; `took` is how long the cycle has been running. -/
  | answer (reply : (r : Request) → Except ApiError r.Answer) (took : Duration)
  /-- The sleep is over. -/
  | wake
  | notice (n : Notice)

/-- The task after something has happened to it. -/
def react (s : Scraper) (t : Task) : Stimulus → Task
  | .answer reply took =>
    match t.phase with
    | .asking request resume => s.proceed t.state t.logged (resume (reply request)) took
    | _ => t
  | .wake =>
    match t.phase with
    | .sleeping _ => s.beginCycle t.state t.logged
    | _ => t
  | .notice n =>
    match t.phase with
    | .stopped => t
    | _ =>
      -- the cycle that is running, or the sleep, is dropped either way
      if n.stops then { t with phase := .stopped, logged := t.logged ++ [.scraperStopped] }
      else s.beginCycle t.state t.logged

end Scraper

end FabricGauges
