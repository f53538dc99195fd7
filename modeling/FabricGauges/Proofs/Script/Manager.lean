import FabricGauges.Proofs.Script.Discipline
import Mathlib.Data.List.Forall2

/-!
# Managers

A manager answers a request in view of all the requests before it, so it may change its mind at any
time and in any way. Against a manager, a script has one run at most, and exactly one if it walks no
listing.

`Manager.Yields` says that a script comes to a result, and which requests have been made by then. It
passes through `bind` as a relation from history to history, so what a fetch needs for its result is
read off the fetch. In a list of fetches each has its own history, which is what `withBefore` is
for.
-/

namespace FabricGauges

/-- A manager: its answer to a request after all the requests before. -/
def Manager := (before : List Request) → (r : Request) → Except ApiError r.Answer

/-! ## Lists with what comes before -/

/-- The elements of a list, each with those before it. -/
def withBefore {σ : Type} : List σ → List (List σ × σ)
  | [] => []
  | s :: ss => ([], s) :: (withBefore ss).map fun x => (s :: x.1, x.2)

namespace Manager

open Script (Effect Suspension)

variable {α β : Type} {m : Manager} {h h' : List Request}

/-! ## Runs against a manager -/

/-- The calls are answered by the manager, after some requests. -/
def Answers (m : Manager) : List Request → List Call → Prop
  | _, [] => True
  | h, c :: cs => c.answer = m h c.request ∧ m.Answers (h ++ [c.request]) cs

/-- A manager gives a run of answers if it gives the first of them, and the others after these. -/
theorem answers_append {cs cs' : List Call} :
    m.Answers h (cs ++ cs') ↔ m.Answers h cs ∧ m.Answers (h ++ cs.map (·.request)) cs' := by
  induction cs generalizing h with
  | nil => simp [Answers]
  | cons c cs ih =>
    rw [List.cons_append, Answers, Answers, ih, and_assoc, List.append_assoc]
    rfl

/-- Against a manager, a script comes to its end in one way only. -/
theorem Answers.unique {s : Script α} {cs cs' : List Call} {es es' : List Effect} {a a' : α}
    (hcs : m.Answers h cs) (hcs' : m.Answers h cs') (hs : s.Reaches cs es (.done a))
    (hs' : s.Reaches cs' es' (.done a')) : cs = cs' := by
  -- in step with each other, the runs wait for the same requests and get the same answers
  induction cs generalizing s h cs' es es' with
  | nil =>
    obtain ⟨-, hdone⟩ := Script.reaches_nil.1 hs
    cases cs' with
    | nil => rfl
    | cons c' cs' =>
      obtain ⟨resume, later, hasking, -⟩ := Script.reaches_cons.1 hs'
      rw [← hdone] at hasking
      cases hasking
  | cons c cs ih =>
    obtain ⟨request, answer⟩ := c
    obtain ⟨resume, later, hasking, hlater, -⟩ := Script.reaches_cons.1 hs
    cases cs' with
    | nil =>
      obtain ⟨-, hdone⟩ := Script.reaches_nil.1 hs'
      rw [← hdone] at hasking
      cases hasking
    | cons c' cs' =>
      obtain ⟨request', answer'⟩ := c'
      obtain ⟨resume', later', hasking', hlater', -⟩ := Script.reaches_cons.1 hs'
      rw [hasking] at hasking'
      obtain ⟨rfl, hresume⟩ := Suspension.asking.inj hasking'
      obtain rfl := eq_of_heq hresume
      obtain rfl : answer = answer' := hcs.1.trans hcs'.1.symm
      rw [ih hcs.2 hcs'.2 hlater hlater']

/-- A script that walks no listing comes to its end against every manager. -/
theorem exists_reaches_done (m : Manager) (h : List Request) {s : Script α} {Q : Stage → Prop}
    (hs : s.Confined (fun r => r.isPage = false) Q) :
    ∃ cs es a, s.Reaches cs es (.done a) ∧ m.Answers h cs := by
  induction s generalizing h with
  | done a => exact ⟨[], [], a, .here _, trivial⟩
  | ask r resume ih =>
    obtain ⟨cs, es, a, hreaches, hanswers⟩ := ih (m h r) (h ++ [r]) (hs.2 _)
    exact ⟨⟨r, m h r⟩ :: cs, es, a, .onward (s := .ask r resume) rfl _ hreaches, rfl, hanswers⟩
  -- a walk would ask for a page
  | walk l keep progress resume ih => cases hs.1 none
  | log e rest ih =>
    obtain ⟨cs, es, a, hreaches, hanswers⟩ := ih h hs
    exact ⟨cs, .log e :: es, a, hreaches.after [.log e] rfl, hanswers⟩
  | publish stage samples rest ih =>
    obtain ⟨cs, es, a, hreaches, hanswers⟩ := ih h hs.2
    exact ⟨cs, .publish stage samples :: es, a, hreaches.after [.publish stage samples] rfl,
      hanswers⟩

/-- Against the manager, the script ends with this result. -/
def Returns (m : Manager) (h : List Request) (f : Fetch α) (r : Except ScrapeError α) : Prop :=
  ∃ cs es, f.Runs cs es r ∧ m.Answers h cs

/-- A fetch has one result against a manager. -/
theorem Returns.unique {f : Fetch α} {r r' : Except ScrapeError α} (hr : m.Returns h f r)
    (hr' : m.Returns h f r') : r = r' := by
  obtain ⟨cs, es, hruns, hanswers⟩ := hr
  obtain ⟨cs', es', hruns', hanswers'⟩ := hr'
  obtain rfl := hanswers.unique hanswers' hruns hruns'
  exact (hruns.unique hruns').2

/-! ## Results of scripts -/

/-- Against the manager, the script comes to this result, and then these requests have been made. -/
def Yields (m : Manager) (h : List Request) (f : Fetch α) (h' : List Request) (a : α) : Prop :=
  ∃ cs es, f.Runs cs es (.ok a) ∧ m.Answers h cs ∧ h' = h ++ cs.map (·.request)

/-- A fetch returns a value if it yields it, whatever it has asked by then. -/
theorem returns_ok {f : Fetch α} {a : α} : m.Returns h f (.ok a) ↔ ∃ h', m.Yields h f h' a := by
  constructor
  · intro hreturns
    obtain ⟨cs, es, hruns, hanswers⟩ := hreturns
    exact ⟨_, cs, es, hruns, hanswers, rfl⟩
  · intro hyields
    obtain ⟨h', cs, es, hruns, hanswers, -⟩ := hyields
    exact ⟨cs, es, hruns, hanswers⟩

/-- A fetch that goes on with another yields what the second does where the first one stopped. -/
theorem yields_bind {f : Fetch α} {g : α → Fetch β} {b : β} :
    m.Yields h (f >>= g) h' b ↔ ∃ h₁ a, m.Yields h f h₁ a ∧ m.Yields h₁ (g a) h' b := by
  constructor
  · intro hyields
    obtain ⟨cs, es, hruns, hanswers, rfl⟩ := hyields
    obtain ⟨cs₁, cs₂, es₁, es₂, a, rfl, rfl, hf, hg⟩ := Fetch.runs_bind_ok.1 hruns
    obtain ⟨h₁, h₂⟩ := answers_append.1 hanswers
    refine ⟨_, a, ⟨cs₁, es₁, hf, h₁, rfl⟩, cs₂, es₂, hg, h₂, ?_⟩
    rw [List.map_append, List.append_assoc]
  · intro hyields
    obtain ⟨_, a, ⟨cs₁, es₁, hf, h₁, rfl⟩, cs₂, es₂, hg, h₂, rfl⟩ := hyields
    refine ⟨cs₁ ++ cs₂, es₁ ++ es₂, Fetch.runs_bind_ok.2 ⟨_, _, _, _, a, rfl, rfl, hf, hg⟩,
      answers_append.2 ⟨h₁, h₂⟩, ?_⟩
    rw [List.map_append, List.append_assoc]

/-- A script that asks for nothing comes to its result without the manager. -/
theorem yields_of_runs {f : Fetch α} {es : List Effect} {r : Except ScrapeError α}
    (hf : ∀ {cs es' r'}, f.Runs cs es' r' ↔ cs = [] ∧ es' = es ∧ r' = r) {a : α} :
    m.Yields h f h' a ↔ h' = h ∧ r = .ok a := by
  constructor
  · intro hyields
    obtain ⟨cs, es', hruns, -, rfl⟩ := hyields
    obtain ⟨rfl, -, rfl⟩ := hf.1 hruns
    exact ⟨List.append_nil _, rfl⟩
  · intro hyields
    obtain ⟨rfl, rfl⟩ := hyields
    exact ⟨[], es, hf.2 ⟨rfl, rfl, rfl⟩, trivial, (List.append_nil _).symm⟩

theorem yields_pure {a b : α} : m.Yields h (pure a : Fetch α) h' b ↔ h' = h ∧ a = b := by
  rw [yields_of_runs Fetch.runs_pure, Except.ok.injEq]

theorem yields_ofExcept {r : Except ScrapeError α} {a : α} :
    m.Yields h (.ofExcept r) h' a ↔ h' = h ∧ r = .ok a := yields_of_runs Fetch.runs_ofExcept

theorem yields_log {e : Event} {u : Unit} : m.Yields h (.log e) h' u ↔ h' = h := by
  rw [yields_of_runs Fetch.runs_log]
  exact and_iff_left rfl

/-- A value that is required is there. -/
theorem yields_require {e : ScrapeError} {o : Option α} {a : α} :
    m.Yields h (.require e o) h' a ↔ h' = h ∧ o = some a := by
  rw [yields_of_runs Fetch.runs_require]
  cases o <;> simp

/-- A call yields the document that the manager answers with. -/
theorem yields_ask {q : Request} {a : q.Answer} :
    @Yields (no_index q.Answer) m h (.ask q) h' a ↔ h' = h ++ [q] ∧ m h q = .ok a := by
  constructor
  · intro hyields
    obtain ⟨cs, es, hruns, hanswers, rfl⟩ := hyields
    obtain ⟨answer, rfl, -, ha⟩ := Fetch.runs_ask.1 hruns
    -- the only call is answered by the manager, and its answer is the document
    refine ⟨rfl, ?_⟩
    rw [← hanswers.1]
    cases answer with
    | error e => cases ha
    | ok document =>
      cases ha
      rfl
  · intro hyields
    obtain ⟨rfl, ha⟩ := hyields
    exact ⟨[⟨q, .ok a⟩], [], Fetch.runs_ask.2 ⟨_, rfl, rfl, rfl⟩, ⟨ha.symm, trivial⟩, rfl⟩

/-- A list of fetches comes to its results if each of them does, after the requests of those before
it. `next` is what each of them asks for. -/
theorem yields_mapM {σ : Type} {f : σ → Fetch α} {next : σ → List Request}
    (hnext : ∀ s h h' a, m.Yields h (f s) h' a → h' = h ++ next s) {ss : List σ} {as : List α} :
    m.Yields h (ss.mapM f) h' as ↔ h' = h ++ ss.flatMap next ∧
      List.Forall₂ (fun x a => ∃ h', m.Yields (h ++ x.1.flatMap next) (f x.2) h' a)
        (withBefore ss) as := by
  induction ss generalizing h h' as with
  | nil =>
    show m.Yields h (pure []) h' as ↔ _
    rw [yields_pure, withBefore, List.forall₂_nil_left_iff, List.flatMap_nil, List.append_nil,
      eq_comm (a := [])]
  | cons s ss ih =>
    -- the later fetches come after the requests of the first one as well
    have hlater : ∀ as : List α,
        List.Forall₂ (fun x a => ∃ h', m.Yields (h ++ x.1.flatMap next) (f x.2) h' a)
          ((withBefore ss).map fun x => (s :: x.1, x.2)) as ↔
        List.Forall₂ (fun x a => ∃ h', m.Yields (h ++ next s ++ x.1.flatMap next) (f x.2) h' a)
          (withBefore ss) as := by
      intro as
      simp only [List.forall₂_map_left_iff, List.flatMap_cons, List.append_assoc]
    rw [List.mapM_cons, yields_bind, withBefore, List.flatMap_cons, ← List.append_assoc]
    constructor
    · intro hyields
      obtain ⟨h₁, a, hs, hrest⟩ := hyields
      obtain ⟨h₂, as', hss, hpure⟩ := yields_bind.1 hrest
      obtain ⟨rfl, rfl⟩ := yields_pure.1 hpure
      obtain rfl := hnext s h h₁ a hs
      obtain ⟨rfl, heach⟩ := ih.1 hss
      refine ⟨rfl, .cons ⟨h ++ next s, ?_⟩ ((hlater as').2 heach)⟩
      rw [List.flatMap_nil, List.append_nil]
      exact hs
    · intro hyields
      obtain ⟨rfl, heach⟩ := hyields
      obtain ⟨a, as', ⟨h₁, hs⟩, hss, rfl⟩ := List.forall₂_cons_left_iff.1 heach
      rw [List.flatMap_nil, List.append_nil] at hs
      obtain rfl := hnext s h h₁ a hs
      exact ⟨_, a, hs, yields_bind.2 ⟨_, as', ih.2 ⟨rfl, (hlater as').1 hss⟩,
        yields_pure.2 ⟨rfl, rfl⟩⟩⟩

end Manager

end FabricGauges
