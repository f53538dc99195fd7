import FabricGauges.Proofs.Script.Fetch

/-!
# What a script never does

Two rules that are read off the text of a script and hold of all its runs.

* A script is `Confined` to some requests and some stages if it asks and publishes nothing else.
* A script is `Prompt` if the first error of the manager ends it at once, with that error; the
  errors it comes to by itself are then known by a predicate.

Both pass through `bind`, so they are checked once for each building block.
-/

namespace FabricGauges

/-- The request is for a page of a listing. -/
def Request.isPage : Request → Bool
  | page _ _ => true
  | _ => false

namespace Script

variable {α β : Type}

/-! ## Confinement -/

/-- Whatever is answered, only such requests are made and only such stages are published. -/
def Confined (P : Request → Prop) (Q : Stage → Prop) : Script α → Prop
  | done _ => True
  | ask r resume => P r ∧ ∀ answer, (resume answer).Confined P Q
  | walk l _ _ resume => (∀ cursor, P (.page l cursor)) ∧ ∀ results, (resume results).Confined P Q
  | log _ rest => rest.Confined P Q
  | publish stage _ rest => Q stage ∧ rest.Confined P Q

variable {P : Request → Prop} {Q : Stage → Prop}

/-- A script that goes on with confined ones is confined. -/
theorem Confined.bind {s : Script α} {f : α → Script β} (hs : s.Confined P Q)
    (hf : ∀ a, (f a).Confined P Q) : (s.bind f).Confined P Q := by
  induction s with
  | done a => exact hf a
  | ask r resume ih => exact ⟨hs.1, fun answer => ih answer (hs.2 answer)⟩
  | walk l keep progress resume ih => exact ⟨hs.1, fun results => ih results (hs.2 results)⟩
  | log e rest ih => exact ih hs
  | publish stage samples rest ih => exact ⟨hs.1, ih hs.2⟩

/-- What a script is confined to may be widened. -/
theorem Confined.mono {P' : Request → Prop} {Q' : Stage → Prop} {s : Script α}
    (h : s.Confined P Q) (hP : ∀ r, P r → P' r) (hQ : ∀ stage, Q stage → Q' stage) :
    s.Confined P' Q' := by
  induction s with
  | done a => trivial
  | ask r resume ih => exact ⟨hP _ h.1, fun answer => ih answer (h.2 answer)⟩
  | walk l keep progress resume ih =>
    exact ⟨fun cursor => hP _ (h.1 cursor), fun results => ih results (h.2 results)⟩
  | log e rest ih => exact ih h
  | publish stage samples rest ih => exact ⟨hQ _ h.1, ih h.2⟩

/-- A confined script settles within its bounds and goes on as a confined script. -/
theorem Confined.settle {s : Script α} (h : s.Confined P Q) :
    (∀ p ∈ published s.settle.1, Q p.1) ∧
      ∀ request resume, s.settle.2 = .asking request resume →
        P request ∧ ∀ answer, (resume answer).Confined P Q := by
  induction s with
  | done a => exact ⟨by rintro p ⟨⟩, by rintro request resume ⟨⟩⟩
  | ask r resume ih =>
    refine ⟨by rintro p ⟨⟩, ?_⟩
    intro request resume' hasking
    cases hasking
    exact h
  | walk l keep progress resume ih =>
    refine ⟨by rintro p ⟨⟩, ?_⟩
    intro request resume' hasking
    cases hasking
    -- every page of the walk is allowed, whatever its cursor
    refine ⟨h.1 progress.cursor, fun answer => ?_⟩
    cases answer with
    | error e => exact h.2 (.error e)
    | ok page =>
      simp only [afterPage]
      cases progress.take keep page with
      | more w => exact h
      | finished w => exact h.2 (.ok w.kept)
  | log e rest ih => exact ih h
  | publish stage samples rest ih =>
    obtain ⟨hpublished, hasking⟩ := ih h.2
    refine ⟨fun p hp => ?_, hasking⟩
    rcases List.mem_cons.1 hp with rfl | hp
    · exact h.1
    · exact hpublished p hp

/-- A run of a confined script makes no other requests, waits for no others and publishes no other
stages. -/
theorem Confined.reaches {s : Script α} {cs : List Call} {es : List Effect} {p : Suspension α}
    (h : s.Confined P Q) (hr : s.Reaches cs es p) :
    (∀ c ∈ cs, P c.request) ∧ (∀ q ∈ published es, Q q.1) ∧
      ∀ request resume, p = .asking request resume → P request := by
  induction hr with
  | here s =>
    obtain ⟨hpublished, hasking⟩ := h.settle
    exact ⟨by rintro c ⟨⟩, hpublished, fun request resume hp => (hasking request resume hp).1⟩
  | onward asking answer later ih =>
    obtain ⟨hpublished, hasking⟩ := h.settle
    obtain ⟨hrequest, hresume⟩ := hasking _ _ asking
    obtain ⟨hcalls, hlater, hwaiting⟩ := ih (hresume answer)
    refine ⟨fun c hc => ?_, fun q hq => ?_, hwaiting⟩
    · rcases List.mem_cons.1 hc with rfl | hc
      · exact hrequest
      · exact hcalls c hc
    · -- what is published comes from before the wait or from the rest of the run
      rw [published_append, List.mem_append] at hq
      exact hq.elim (hpublished q) (hlater q)

/-! ## Promptness -/

/-- An error of the manager ends the script with that error; others that it ends with are `E`. -/
def Prompt (E : ScrapeError → Prop) : Script (Except ScrapeError α) → Prop
  | done r => ∀ e, r = .error e → E e
  | ask _ resume =>
    (∀ e, resume (.error e) = done (.error (.api e))) ∧ ∀ d, (resume (.ok d)).Prompt E
  | walk _ _ _ resume =>
    (∀ e, resume (.error e) = done (.error (.api e))) ∧ ∀ rs, (resume (.ok rs)).Prompt E
  | log _ rest => rest.Prompt E
  | publish _ _ rest => rest.Prompt E

variable {E : ScrapeError → Prop}

/-- A script that stops at the first error does so if it goes on with such scripts. -/
theorem Prompt.bind {s : Script (Except ScrapeError α)} {g : α → Script (Except ScrapeError β)}
    (hs : s.Prompt E) (hg : ∀ a, (g a).Prompt E) :
    (s.bind (ExceptT.bindCont (m := Script) g)).Prompt E := by
  induction s with
  | done r =>
    cases r with
    | error e =>
      intro e' he
      cases he
      exact hs e rfl
    | ok a => exact hg a
  | ask r resume ih =>
    refine ⟨fun e => ?_, fun d => ih (.ok d) (hs.2 d)⟩
    -- the script ends with the error, and an error passes by what comes after
    show (resume (.error e)).bind _ = _
    rw [hs.1 e]
    rfl
  | walk l keep progress resume ih =>
    refine ⟨fun e => ?_, fun rs => ih (.ok rs) (hs.2 rs)⟩
    show (resume (.error e)).bind _ = _
    rw [hs.1 e]
    rfl
  | log e rest ih => exact ih hs
  | publish stage samples rest ih => exact ih hs

/-- The errors that a script may make itself may be widened. -/
theorem Prompt.mono {E' : ScrapeError → Prop} {s : Script (Except ScrapeError α)}
    (h : s.Prompt E) (hE : ∀ e, E e → E' e) : s.Prompt E' := by
  induction s with
  | done r => exact fun e he => hE e (h e he)
  | ask r resume ih => exact ⟨h.1, fun d => ih (.ok d) (h.2 d)⟩
  | walk l keep progress resume ih => exact ⟨h.1, fun rs => ih (.ok rs) (h.2 rs)⟩
  | log e rest ih => exact ih h
  | publish stage samples rest ih => exact ih h

/-- A prompt script settles at an error of its own, or waits as a prompt script. -/
theorem Prompt.settle {s : Script (Except ScrapeError α)} (h : s.Prompt E) :
    (∀ e, s.settle.2 = .done (.error e) → E e) ∧
      ∀ request resume, s.settle.2 = .asking request resume →
        (∀ e, resume (.error e) = done (.error (.api e))) ∧ ∀ d, (resume (.ok d)).Prompt E := by
  -- on the way to the next call, which effects do not change
  induction s with
  | done r =>
    refine ⟨?_, by rintro request resume ⟨⟩⟩
    intro e he
    cases he
    exact h e rfl
  | ask r resume ih =>
    refine ⟨by rintro e ⟨⟩, ?_⟩
    intro request resume' hasking
    cases hasking
    exact h
  | walk l keep progress resume ih =>
    refine ⟨by rintro e ⟨⟩, ?_⟩
    intro request resume' hasking
    cases hasking
    refine ⟨h.1, fun page => ?_⟩
    simp only [afterPage]
    cases progress.take keep page with
    | more w => exact h
    | finished w => exact h.2 w.kept
  | log e rest ih => exact ih h
  | publish stage samples rest ih => exact ih h

/-- In a run of a prompt script all calls have succeeded, unless the last one has failed and the
run has ended with its error. -/
theorem Prompt.reaches {s : Script (Except ScrapeError α)} {cs : List Call} {es : List Effect}
    {p : Suspension (Except ScrapeError α)} (h : s.Prompt E) (hr : s.Reaches cs es p) :
    ((∀ c ∈ cs, c.Succeeded) ∧ ∀ e, p = .done (.error e) → E e) ∨
      ∃ before request e, cs = before ++ [⟨request, .error e⟩] ∧ (∀ c ∈ before, c.Succeeded) ∧
        p = .done (.error (.api e)) := by
  induction hr with
  | here s => exact .inl ⟨by rintro c ⟨⟩, h.settle.1⟩
  | @onward s request resume cs es p asking answer later ih =>
    obtain ⟨herror, hok⟩ := h.settle.2 _ _ asking
    -- an error is the last answer; after a document the rest of the run decides
    cases answer with
    | error e =>
      rw [herror e] at later
      obtain ⟨rfl, -, rfl⟩ := reaches_done.1 later
      exact .inr ⟨[], request, e, rfl, by rintro c ⟨⟩, rfl⟩
    | ok d =>
      have hfirst : Call.Succeeded ⟨request, .ok d⟩ := ⟨d, rfl⟩
      rcases ih (hok d) with ⟨hcalls, hown⟩ | ⟨before, r, e, rfl, hbefore, hp⟩
      · exact .inl ⟨List.forall_mem_cons.2 ⟨hfirst, hcalls⟩, hown⟩
      · exact .inr ⟨_ :: before, r, e, rfl, List.forall_mem_cons.2 ⟨hfirst, hbefore⟩, hp⟩

end Script

namespace Fetch

variable {α β : Type} {P : Request → Prop} {Q : Stage → Prop} {E : ScrapeError → Prop}

/-! ## Building blocks -/

/-- `Script.Confined`, of a script that can fail. -/
def Confined (P : Request → Prop) (Q : Stage → Prop) (f : Fetch α) : Prop :=
  Script.Confined P Q f.run

/-- `Script.Prompt`, of a script that can fail. -/
def Prompt (E : ScrapeError → Prop) (f : Fetch α) : Prop := Script.Prompt E f.run

@[simp] theorem confined_pure (a : α) : Confined P Q (pure a) := trivial

@[simp] theorem confined_ofExcept (r : Except ScrapeError α) : Confined P Q (ofExcept r) := trivial

@[simp] theorem confined_log (e : Event) : Confined P Q (log e) := trivial

@[simp] theorem confined_require (e : ScrapeError) (a : Option α) :
    Confined P Q (require e a) := by
  cases a <;> trivial

/-- A single request is confined to itself. -/
theorem confined_ask {q : Request} (h : P q) : Confined P Q (ask q) := ⟨h, fun _ => trivial⟩

/-- A walk is confined to the pages of its listing. -/
theorem confined_walk {l : Listing} {keep : l.Item → Bool} (h : ∀ cursor, P (.page l cursor)) :
    Confined P Q (walk l keep) := ⟨h, fun _ => trivial⟩

theorem confined_publish {stage : Stage} {samples : List Sample} (h : Q stage) :
    Confined P Q (publish stage samples) := ⟨h, trivial⟩

/-- A fetch that goes on with confined ones is confined. -/
theorem Confined.bind {f : Fetch α} {g : α → Fetch β} (hf : Confined P Q f)
    (hg : ∀ a, Confined P Q (g a)) : Confined P Q (f >>= g) := by
  refine Script.Confined.bind hf fun r => ?_
  cases r with
  | error e => trivial
  | ok a => exact hg a

/-- What is done for each item is confined if it is for one. -/
theorem confined_mapM {σ : Type} {f : σ → Fetch α} (hf : ∀ x, Confined P Q (f x)) (ss : List σ) :
    Confined P Q (ss.mapM f) := by
  induction ss with
  | nil => exact confined_pure []
  | cons x ss ih =>
    rw [List.mapM_cons]
    exact (hf x).bind fun a => ih.bind fun as => confined_pure (a :: as)

theorem confined_forM_log (events : List Event) : Confined P Q (events.forM log) := by
  induction events with
  | nil => exact confined_pure ()
  | cons e events ih => exact (confined_log e).bind fun _ => ih

/-- A run of a confined script makes only such calls and publishes only such stages. -/
theorem Confined.runs {f : Fetch α} (h : Confined P Q f) {cs : List Call}
    {es : List Script.Effect} {r : Except ScrapeError α} (hr : Runs f cs es r) :
    (∀ c ∈ cs, P c.request) ∧ ∀ q ∈ Script.published es, Q q.1 := by
  obtain ⟨hcalls, hpublished, -⟩ := Script.Confined.reaches h hr
  exact ⟨hcalls, hpublished⟩

@[simp] theorem prompt_pure (a : α) : Prompt E (pure a) := by
  intro e he
  cases he

@[simp] theorem prompt_log (e : Event) : Prompt E (log e) := by
  intro e he
  cases he

/-- An error that may be made is made at once. -/
theorem prompt_fail {e : ScrapeError} (h : E e) : Prompt E (fail e : Fetch α) := by
  intro e' he
  cases he
  exact h

theorem prompt_ofExcept {r : Except ScrapeError α} (h : ∀ e, r = .error e → E e) :
    Prompt E (ofExcept r) := h

/-- What is required and missing gives the error that is named for it. -/
theorem prompt_require {e : ScrapeError} (h : E e) (a : Option α) : Prompt E (require e a) := by
  cases a with
  | none => exact prompt_fail h
  | some a => exact prompt_pure a

/-- A request that fails ends with the error of its call. -/
@[simp] theorem prompt_ask (q : Request) : Prompt E (ask q) := by
  refine ⟨fun e => rfl, fun d => ?_⟩
  intro e he
  cases he

/-- A walk ends with the error of the page that failed. -/
@[simp] theorem prompt_walk (l : Listing) (keep : l.Item → Bool) : Prompt E (walk l keep) := by
  refine ⟨fun e => rfl, fun rs => ?_⟩
  intro e he
  cases he

/-- A fetch that goes on with prompt ones is prompt. -/
theorem Prompt.bind {f : Fetch α} {g : α → Fetch β} (hf : Prompt E f)
    (hg : ∀ a, Prompt E (g a)) : Prompt E (f >>= g) := Script.Prompt.bind hf hg

/-- What is done for each item stops at the first error. -/
theorem prompt_mapM {σ : Type} {f : σ → Fetch α} (hf : ∀ x, Prompt E (f x)) (ss : List σ) :
    Prompt E (ss.mapM f) := by
  induction ss with
  | nil => exact prompt_pure []
  | cons x ss ih =>
    rw [List.mapM_cons]
    exact (hf x).bind fun a => ih.bind fun as => prompt_pure (a :: as)

/-- A run to the end in which a call failed has ended with its error, and at once. -/
theorem Prompt.runs {f : Fetch α} (h : Prompt E f) {cs : List Call} {es : List Script.Effect}
    {r : Except ScrapeError α} (hr : Runs f cs es r) :
    ((∀ c ∈ cs, c.Succeeded) ∧ ∀ e, r = .error e → E e) ∨
      ∃ before request e, cs = before ++ [⟨request, .error e⟩] ∧ (∀ c ∈ before, c.Succeeded) ∧
        r = .error (.api e) := by
  rcases Script.Prompt.reaches h hr with ⟨hcalls, hown⟩ | ⟨before, request, e, hcs, hbefore, hp⟩
  · refine .inl ⟨hcalls, ?_⟩
    intro e he
    subst he
    exact hown e rfl
  · exact .inr ⟨before, request, e, hcs, hbefore, Script.Suspension.done.inj hp⟩

end Fetch

end FabricGauges
