import FabricGauges.Cycle.Join
import FabricGauges.Proofs.Script.Trace

/-!
# Runs of scripts that can fail

What a run of each building block looks like: which calls it has, what it does and how it ends. A
run of two scripts is cut where the first one has handed its result over.
-/

namespace FabricGauges

/-! ## Effects -/

/-- What an effect publishes. -/
def Script.Effect.published? : Script.Effect → Option (Stage × List Sample)
  | .log _ => none
  | .publish stage samples => some (stage, samples)

/-- Everything that is published, in order. -/
def Script.published (es : List Script.Effect) : List (Stage × List Sample) :=
  es.filterMap (·.published?)

@[simp] theorem Script.published_append (es es' : List Script.Effect) :
    published (es ++ es') = published es ++ published es' := List.filterMap_append

@[simp] theorem Script.published_map_log (events : List Event) :
    published (events.map .log) = [] := by
  induction events with
  | nil => rfl
  | cons e events ih => exact ih

namespace Fetch

open Script (Effect published)

variable {α β : Type} {cs : List Call} {es : List Effect}

/-! ## Runs to the end -/

/-- The script went through these calls, did these effects and ended with this result. -/
def Runs (f : Fetch α) (cs : List Call) (es : List Effect) (r : Except ScrapeError α) : Prop :=
  Script.Reaches f.run cs es (.done r)

/-- The answers decide the effects and the result of a fetch. -/
theorem Runs.unique {f : Fetch α} {es' : List Effect} {r r' : Except ScrapeError α}
    (h : Runs f cs es r) (h' : Runs f cs es' r') : es = es' ∧ r = r' := by
  obtain ⟨rfl, hr⟩ := Script.Reaches.unique h h'
  exact ⟨rfl, Script.Suspension.done.inj hr⟩

/-- A script that is done makes no calls. -/
theorem runs_done {r r' : Except ScrapeError α} :
    Runs (ExceptT.mk (Script.done r)) cs es r' ↔ cs = [] ∧ es = [] ∧ r' = r := by
  show Script.Reaches (.done r) cs es (.done r') ↔ _
  rw [Script.reaches_done, Script.Suspension.done.injEq]

@[simp] theorem runs_pure {a : α} {r : Except ScrapeError α} :
    Runs (pure a) cs es r ↔ cs = [] ∧ es = [] ∧ r = .ok a := runs_done

@[simp] theorem runs_fail {e : ScrapeError} {r : Except ScrapeError α} :
    Runs (fail e) cs es r ↔ cs = [] ∧ es = [] ∧ r = .error e := runs_done

@[simp] theorem runs_ofExcept {result r : Except ScrapeError α} :
    Runs (ofExcept result) cs es r ↔ cs = [] ∧ es = [] ∧ r = result := runs_done

@[simp] theorem runs_log {e : Event} {r : Except ScrapeError Unit} :
    Runs (log e) cs es r ↔ cs = [] ∧ es = [.log e] ∧ r = .ok () := by
  constructor
  · intro h
    rcases h with _ | ⟨asking, _, _⟩
    · exact ⟨rfl, rfl, rfl⟩
    · -- logging waits for nothing
      cases asking
  · intro h
    obtain ⟨rfl, rfl, rfl⟩ := h
    exact .here _

/-- A stage is published without a call. -/
@[simp] theorem runs_publish {stage : Stage} {samples : List Sample}
    {r : Except ScrapeError Unit} :
    Runs (publish stage samples) cs es r ↔
      cs = [] ∧ es = [.publish stage samples] ∧ r = .ok () := by
  constructor
  · intro h
    rcases h with _ | ⟨asking, _, _⟩
    · exact ⟨rfl, rfl, rfl⟩
    · cases asking
  · intro h
    obtain ⟨rfl, rfl, rfl⟩ := h
    exact .here _

/-- A request is answered once, and the script goes on with the document or ends with the error. -/
theorem runs_ask {q : Request} {r : Except ScrapeError q.Answer} :
    Runs (ask q) cs es r ↔
      ∃ answer, cs = [⟨q, answer⟩] ∧ es = [] ∧ r = answer.mapError .api := by
  constructor
  · intro h
    rcases h with _ | ⟨asking, answer, later⟩
    obtain ⟨rfl, hresume⟩ := Script.Suspension.asking.inj asking
    obtain rfl := eq_of_heq hresume
    obtain ⟨rfl, rfl, rfl⟩ := runs_done.1 later
    exact ⟨answer, rfl, rfl, rfl⟩
  · intro h
    obtain ⟨answer, rfl, rfl, rfl⟩ := h
    exact .onward (s := (ask q).run) rfl answer (.here _)

/-- A run of two scripts is still in the first one, or has failed there, or has passed from its
result to the second. -/
theorem reaches_bind {f : Fetch α} {g : α → Fetch β}
    {p : Script.Suspension (Except ScrapeError β)} :
    Script.Reaches (f >>= g).run cs es p ↔
      (∃ request resume, Script.Reaches f.run cs es (.asking request resume) ∧
        p = .asking request fun answer => (resume answer).bind (ExceptT.bindCont (m := Script) g)) ∨
      (∃ e, p = .done (.error e) ∧ Runs f cs es (.error e)) ∨
      ∃ cs₁ cs₂ es₁ es₂ a, cs = cs₁ ++ cs₂ ∧ es = es₁ ++ es₂ ∧
        Runs f cs₁ es₁ (.ok a) ∧ Script.Reaches (g a).run cs₂ es₂ p := by
  show Script.Reaches (Script.bind f.run (ExceptT.bindCont g)) cs es p ↔ _
  rw [Script.reaches_bind]
  refine or_congr_right ?_
  constructor
  · intro h
    obtain ⟨cs₁, cs₂, es₁, es₂, result, rfl, rfl, h₁, h₂⟩ := h
    -- an error is handed over as it is, with no calls and no effects of the second script
    cases result with
    | error e =>
      obtain ⟨rfl, rfl, rfl⟩ := Script.reaches_done.1 h₂
      rw [List.append_nil, List.append_nil]
      exact .inl ⟨e, rfl, h₁⟩
    | ok a => exact .inr ⟨cs₁, cs₂, es₁, es₂, a, rfl, rfl, h₁, h₂⟩
  · intro h
    rcases h with ⟨e, rfl, h⟩ | ⟨cs₁, cs₂, es₁, es₂, a, rfl, rfl, h₁, h₂⟩
    · exact ⟨cs, [], es, [], .error e, (List.append_nil _).symm, (List.append_nil _).symm, h,
        .here _⟩
    · exact ⟨cs₁, cs₂, es₁, es₂, .ok a, rfl, rfl, h₁, h₂⟩

/-- A run of two scripts fails in the first one, or has passed from its result to the second. -/
theorem runs_bind {f : Fetch α} {g : α → Fetch β} {r : Except ScrapeError β} :
    Runs (f >>= g) cs es r ↔
      (∃ e, r = .error e ∧ Runs f cs es (.error e)) ∨
      ∃ cs₁ cs₂ es₁ es₂ a, cs = cs₁ ++ cs₂ ∧ es = es₁ ++ es₂ ∧
        Runs f cs₁ es₁ (.ok a) ∧ Runs (g a) cs₂ es₂ r := by
  constructor
  · intro h
    rcases reaches_bind.1 h with ⟨request, resume, -, hp⟩ | ⟨e, hp, h⟩ | h
    · cases hp
    · exact .inl ⟨e, Script.Suspension.done.inj hp, h⟩
    · exact .inr h
  · intro h
    rcases h with ⟨e, rfl, h⟩ | h
    · exact reaches_bind.2 (.inr (.inl ⟨e, rfl, h⟩))
    · exact reaches_bind.2 (.inr (.inr h))

/-- A run with a result has passed through the results of both scripts. -/
theorem runs_bind_ok {f : Fetch α} {g : α → Fetch β} {b : β} :
    Runs (f >>= g) cs es (.ok b) ↔
      ∃ cs₁ cs₂ es₁ es₂ a, cs = cs₁ ++ cs₂ ∧ es = es₁ ++ es₂ ∧
        Runs f cs₁ es₁ (.ok a) ∧ Runs (g a) cs₂ es₂ (.ok b) := by
  rw [runs_bind]
  constructor
  · intro h
    rcases h with ⟨e, h, -⟩ | h
    · cases h
    · exact h
  · exact .inr

/-- A fetch whose value is mapped returns the image of that value. -/
theorem runs_map_ok {f : Fetch α} {g : α → β} {b : β} :
    Runs (g <$> f) cs es (.ok b) ↔ ∃ a, Runs f cs es (.ok a) ∧ g a = b := by
  rw [map_eq_pure_bind, runs_bind_ok]
  constructor
  · intro h
    obtain ⟨cs₁, _, es₁, _, a, rfl, rfl, h, hpure⟩ := h
    -- the second script is pure, so it adds nothing to the calls and the effects
    obtain ⟨rfl, rfl, hb⟩ := runs_pure.1 hpure
    rw [List.append_nil, List.append_nil]
    exact ⟨a, h, (Except.ok.inj hb).symm⟩
  · intro h
    obtain ⟨a, h, rfl⟩ := h
    exact ⟨cs, [], es, [], a, (List.append_nil _).symm, (List.append_nil _).symm, h,
      runs_pure.2 ⟨rfl, rfl, rfl⟩⟩

/-- A value that is required is returned, and its absence is the error. -/
@[simp] theorem runs_require {e : ScrapeError} {a : Option α} {r : Except ScrapeError α} :
    Runs (require e a) cs es r ↔ cs = [] ∧ es = [] ∧ r = a.elim (.error e) .ok := by
  cases a with
  | none => exact runs_fail
  | some a => exact runs_pure

/-- Logging one event after another cannot fail and asks for nothing. -/
theorem runs_forM_log {events : List Event} {r : Except ScrapeError Unit} :
    Runs (events.forM log) cs es r ↔ cs = [] ∧ es = events.map .log ∧ r = .ok () := by
  induction events generalizing cs es with
  | nil => exact runs_pure
  | cons e events ih =>
    show Runs (log e >>= fun _ => events.forM log) cs es r ↔ _
    rw [runs_bind]
    constructor
    · intro h
      rcases h with ⟨error, -, h⟩ | ⟨cs₁, cs₂, es₁, es₂, a, rfl, rfl, h₁, h₂⟩
      · obtain ⟨-, -, h⟩ := runs_log.1 h
        cases h
      · obtain ⟨rfl, rfl, -⟩ := runs_log.1 h₁
        obtain ⟨rfl, rfl, rfl⟩ := ih.1 h₂
        exact ⟨rfl, rfl, rfl⟩
    · intro h
      obtain ⟨rfl, rfl, rfl⟩ := h
      exact .inr ⟨[], [], [.log e], events.map .log, (), rfl, rfl, runs_log.2 ⟨rfl, rfl, rfl⟩,
        ih.2 ⟨rfl, rfl, rfl⟩⟩

end Fetch

end FabricGauges
