import FabricGauges.Proofs.Listing.Trace
import FabricGauges.Proofs.Script.Discipline

/-!
# What a script does in view of its calls

A script may ask for something only because of what it has been answered before. `Script.Obeys` is a
logic for this: with a history of calls, a rule about the requests that may follow a history, and a
condition on the results. It is read off the text of a script, where a walk needs an invariant, and
it holds of all runs.
-/

namespace FabricGauges

namespace Script

variable {α β : Type} {P : List Call → Request → Prop}

/-- After a history, the script asks only as the rule allows and ends only as the condition says. -/
def Obeys (P : List Call → Request → Prop) (Q : List Call → α → Prop) : List Call → Script α → Prop
  | h, done a => Q h a
  | h, ask r resume => P h r ∧ ∀ answer, Obeys P Q (h ++ [⟨r, answer⟩]) (resume answer)
  | h, walk l keep w resume =>
    ∃ I : Walk l.Item → List Call → Prop, I w h ∧ ∀ w h, I w h →
      P h (.page l w.cursor) ∧
      (∀ e, Obeys P Q (h ++ [⟨.page l w.cursor, .error e⟩]) (resume (.error e))) ∧
      ∀ page, match w.take keep page with
        | .more w' => I w' (h ++ [⟨.page l w.cursor, .ok page⟩])
        | .finished w' => Obeys P Q (h ++ [⟨.page l w.cursor, .ok page⟩]) (resume (.ok w'.kept))
  | h, log _ rest => Obeys P Q h rest
  | h, publish _ _ rest => Obeys P Q h rest

/-- A script that goes on with others obeys the rule if all of them do, each after what came before.
-/
theorem Obeys.bind {R : List Call → α → Prop} {Q : List Call → β → Prop} {s : Script α}
    {f : α → Script β} {h : List Call} (hs : Obeys P R h s)
    (hf : ∀ h a, R h a → Obeys P Q h (f a)) : Obeys P Q h (s.bind f) := by
  induction s generalizing h with
  | done a => exact hf h a hs
  | ask r resume ih => exact ⟨hs.1, fun answer => ih answer (hs.2 answer)⟩
  | walk l keep w resume ih =>
    obtain ⟨I, hI, hwalk⟩ := hs
    refine ⟨I, hI, fun w h hw => ?_⟩
    obtain ⟨hasks, herror, hpage⟩ := hwalk w h hw
    refine ⟨hasks, fun e => ih _ (herror e), fun page => ?_⟩
    have hnext := hpage page
    -- only the end of the walk hands over to the second script
    cases htake : w.take keep page with
    | more w' =>
      rw [htake] at hnext
      exact hnext
    | finished w' =>
      rw [htake] at hnext
      exact ih _ hnext
  | log e rest ih => exact ih hs
  | publish stage samples rest ih => exact ih hs

/-- What is known at the end may be weakened. -/
theorem Obeys.mono {Q Q' : List Call → α → Prop} {s : Script α} {h : List Call}
    (hs : Obeys P Q h s) (hQ : ∀ h a, Q h a → Q' h a) : Obeys P Q' h s := by
  rw [← bind_done s]
  exact hs.bind fun h a ha => hQ h a ha

/-- A script that obeys a rule settles at a result that it may have, or asks as it may. -/
theorem Obeys.settle {Q : List Call → α → Prop} {s : Script α} {h : List Call}
    (hs : Obeys P Q h s) :
    (∀ a, s.settle.2 = .done a → Q h a) ∧
      ∀ request resume, s.settle.2 = .asking request resume →
        P h request ∧ ∀ answer, Obeys P Q (h ++ [⟨request, answer⟩]) (resume answer) := by
  -- on the way to the next call; a walk asks by its own invariant
  induction s with
  | done a =>
    refine ⟨?_, by rintro request resume ⟨⟩⟩
    intro a' ha
    cases ha
    exact hs
  | ask r resume ih =>
    refine ⟨by rintro a ⟨⟩, ?_⟩
    intro request resume' hasking
    cases hasking
    exact hs
  | walk l keep w resume ih =>
    refine ⟨by rintro a ⟨⟩, ?_⟩
    intro request resume' hasking
    cases hasking
    obtain ⟨I, hI, hwalk⟩ := hs
    obtain ⟨hasks, herror, hpage⟩ := hwalk w h hI
    refine ⟨hasks, fun answer => ?_⟩
    cases answer with
    | error e => exact herror e
    | ok page =>
      have hnext := hpage page
      simp only [afterPage]
      cases htake : w.take keep page with
      | more w' =>
        rw [htake] at hnext
        exact ⟨I, hnext, hwalk⟩
      | finished w' =>
        rw [htake] at hnext
        exact hnext
  | log e rest ih => exact ih hs
  | publish stage samples rest ih => exact ih hs

/-- What a script obeys holds where a run of it ends or waits. -/
theorem Obeys.reaches {Q : List Call → α → Prop} {s : Script α} {h cs : List Call}
    {es : List Effect} {p : Suspension α} (hs : Obeys P Q h s) (hr : s.Reaches cs es p) :
    (∀ a, p = .done a → Q (h ++ cs) a) ∧
      ∀ request resume, p = .asking request resume → P (h ++ cs) request := by
  induction hr generalizing h with
  | here s =>
    rw [List.append_nil]
    exact ⟨hs.settle.1, fun request resume hp => (hs.settle.2 request resume hp).1⟩
  | onward asking answer later ih =>
    obtain ⟨-, hresume⟩ := hs.settle.2 _ _ asking
    rw [List.append_cons]
    exact ih (hresume answer)

/-- Before each call of a run, the script waits for its answer. -/
theorem Reaches.before {s : Script α} {before after : List Call} {c : Call} {es : List Effect}
    {p : Suspension α} (h : s.Reaches (before ++ c :: after) es p) :
    ∃ es resume, s.Reaches before es (.asking c.request resume) := by
  induction before generalizing s es with
  | nil =>
    obtain ⟨resume, later, asking, -, -⟩ := reaches_cons.1 h
    exact ⟨_, resume, reaches_nil.2 ⟨rfl, asking.symm⟩⟩
  | cons d before ih =>
    obtain ⟨next, later, asking, hlater, -⟩ := reaches_cons.1 h
    obtain ⟨es, resume, hbefore⟩ := ih hlater
    exact ⟨_, resume, reaches_cons.2 ⟨next, es, asking, hbefore, rfl⟩⟩

end Script

namespace Fetch

variable {α β : Type} {P : List Call → Request → Prop} {E : List Call → ScrapeError → Prop}
  {h : List Call}

/-- `Script.Obeys`, of a script that can fail: its errors are `E` and its results `Q`. -/
def Obeys (P : List Call → Request → Prop) (E : List Call → ScrapeError → Prop) (h : List Call)
    (f : Fetch α) (Q : List Call → α → Prop) : Prop :=
  Script.Obeys P (fun h r => match r with
    | .error e => E h e
    | .ok a => Q h a) h f.run

theorem obeys_pure {Q : List Call → α → Prop} {a : α} (ha : Q h a) : Obeys P E h (pure a) Q := ha

/-- Logging and publishing are no calls. -/
theorem obeys_log_then {Q : List Call → β → Prop} {e : Event} {g : Unit → Fetch β}
    (hthen : Obeys P E h (g ()) Q) : Obeys P E h (log e >>= g) Q := hthen

/-- Publishing makes no calls. -/
theorem obeys_publish_then {Q : List Call → β → Prop} {stage : Stage} {samples : List Sample}
    {g : Unit → Fetch β} (hthen : Obeys P E h (g ()) Q) :
    Obeys P E h (publish stage samples >>= g) Q := hthen

theorem obeys_forM_log_then {Q : List Call → β → Prop} {events : List Event} {g : Unit → Fetch β}
    (hthen : Obeys P E h (g ()) Q) : Obeys P E h (events.forM log >>= g) Q := by
  induction events with
  | nil => exact hthen
  | cons e events ih => exact ih

/-- A call obeys the rule if it may be made then, whatever the answer. -/
theorem obeys_ask {q : Request} {Q : List Call → q.Answer → Prop} (hasks : P h q)
    (hok : ∀ document, Q (h ++ [⟨q, .ok document⟩]) document)
    (herror : ∀ e, E (h ++ [⟨q, .error e⟩]) (.api e)) : Obeys P E h (ask q) Q := by
  refine ⟨hasks, fun answer => ?_⟩
  cases answer with
  | error e => exact herror e
  | ok document => exact hok document

theorem Obeys.bind {R : List Call → α → Prop} {Q : List Call → β → Prop} {f : Fetch α}
    {g : α → Fetch β} (hf : Obeys P E h f R) (hg : ∀ h a, R h a → Obeys P E h (g a) Q) :
    Obeys P E h (f >>= g) Q := by
  refine Script.Obeys.bind hf fun h r hr => ?_
  cases r with
  | error e => exact hr
  | ok a => exact hg h a hr

/-- What is known already decides whether the script goes on. -/
theorem obeys_ofExcept_then {Q : List Call → β → Prop} {r : Except ScrapeError α}
    {g : α → Fetch β} (hok : ∀ a, r = .ok a → Obeys P E h (g a) Q)
    (herror : ∀ e, r = .error e → E h e) : Obeys P E h (ofExcept r >>= g) Q := by
  cases r with
  | error e => exact herror e rfl
  | ok a => exact hok a rfl

/-- Requiring a value either goes on with it or ends with the error. -/
theorem obeys_require_then {Q : List Call → β → Prop} {e : ScrapeError} {a : Option α}
    {g : α → Fetch β} (hsome : ∀ x, a = some x → Obeys P E h (g x) Q) (hnone : a = none → E h e) :
    Obeys P E h (require e a >>= g) Q := by
  cases a with
  | none => exact hnone rfl
  | some x => exact hsome x rfl

theorem Obeys.mono {Q Q' : List Call → α → Prop} {f : Fetch α} (hf : Obeys P E h f Q)
    (hQ : ∀ h a, Q h a → Q' h a) : Obeys P E h f Q' := by
  refine Script.Obeys.mono hf fun h r hr => ?_
  cases r with
  | error e => exact hr
  | ok a => exact hQ h a hr

/-- A list of scripts keeps an invariant about the part of the list that has been done. -/
theorem obeys_mapM {σ : Type} {f : σ → Fetch α} {I : List σ → List Call → Prop} {ss : List σ}
    (hstart : I [] h) (hstep : ∀ done x rest h, ss = done ++ x :: rest → I done h →
      Obeys P E h (f x) fun h _ => I (done ++ [x]) h) :
    Obeys P E h (ss.mapM f) fun h _ => I ss h := by
  have hrest : ∀ done rest h, ss = done ++ rest → I done h →
      Obeys P E h (rest.mapM f) fun h _ => I ss h := by
    intro done rest
    induction rest generalizing done with
    | nil =>
      intro h hss hI
      rw [List.append_nil] at hss
      subst hss
      exact obeys_pure hI
    | cons x rest ih =>
      intro h hss hI
      rw [List.mapM_cons]
      refine (hstep done x rest h hss hI).bind fun h a hI => ?_
      rw [List.append_cons] at hss
      exact (ih _ h hss hI).bind fun h as hI => obeys_pure hI
  exact hrest [] ss h rfl hstart

/-- A walk keeps an invariant while there are more pages. -/
theorem obeys_walk {l : Listing} {keep : l.Item → Bool} {Q : List Call → List l.Item → Prop}
    (I : Walk l.Item → List Call → Prop) (hstart : I .start h)
    (hasks : ∀ w h, I w h → P h (.page l w.cursor))
    (herror : ∀ w h e, I w h → E (h ++ [⟨.page l w.cursor, .error e⟩]) (.api e))
    (hpage : ∀ w h page, I w h → match w.take keep page with
      | .more w' => I w' (h ++ [⟨.page l w.cursor, .ok page⟩])
      | .finished w' => Q (h ++ [⟨.page l w.cursor, .ok page⟩]) w'.kept) :
    Obeys P E h (walk l keep) Q :=
  ⟨I, hstart, fun w h hI => ⟨hasks w h hI, fun e => herror w h e hI, fun page => hpage w h page hI⟩⟩

end Fetch

end FabricGauges
