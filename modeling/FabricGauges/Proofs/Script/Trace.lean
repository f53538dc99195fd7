import FabricGauges.Cycle.Script

/-!
# Runs of scripts

A run of a script is known by its calls: the requests it made, each with the answer that came
back. Nothing is assumed about the answers. They are whatever a manager chose to send, and it may
have chosen them in view of every request before, so a statement about all runs is a statement about
all managers.

`Script.Reaches` follows `Script.settle` from one wait to the next. `Fetch.Runs` is the case of a
script that has come to its end, and `Fetch.runs_bind` cuts a run where one script hands over to the
next, which is how everything else about runs is proved.
-/

namespace FabricGauges

/-- A request with the answer that came back. -/
structure Call where
  request : Request
  answer : Except ApiError request.Answer

namespace Call

/-- The request was answered with a document. -/
def Succeeded (c : Call) : Prop := ∃ document, c.answer = .ok document

end Call

namespace Script

variable {α β : Type}

/-! ## Settling one script after another -/

/-- Goes on from a suspension with another script, as far as the next request. -/
def Suspension.followedBy (f : α → Script β) : Suspension α → List Effect × Suspension β
  | .done a => (f a).settle
  | .asking request resume => ([], .asking request fun answer => (resume answer).bind f)

theorem afterPage_bind (l : Listing) (keep : l.Item → Bool) (progress : Walk l.Item)
    (resume : Except ApiError (List l.Item) → Script α) (f : α → Script β)
    (answer : Except ApiError (Page l.Item)) :
    (afterPage l keep progress resume answer).bind f =
      afterPage l keep progress (fun results => (resume results).bind f) answer := by
  -- only a page that ends the walk hands over to what comes after it
  cases answer with
  | error e => rfl
  | ok page =>
    simp only [afterPage]
    cases progress.take keep page with
    | more w => rfl
    | finished w => rfl

/-- The second script starts where the first one has ended, in the same breath. -/
theorem settle_bind (s : Script α) (f : α → Script β) :
    (s.bind f).settle =
      (s.settle.1 ++ (s.settle.2.followedBy f).1, (s.settle.2.followedBy f).2) := by
  induction s with
  | done a => rfl
  | ask r resume ih => rfl
  | walk l keep progress resume ih =>
    have hpages : (fun answer => (afterPage l keep progress resume answer).bind f) =
        afterPage l keep progress fun results => (resume results).bind f :=
      funext fun answer => afterPage_bind l keep progress resume f answer
    -- the first script waits for a page, so the second one has no effect yet
    show ([], Suspension.asking (.page l progress.cursor)
        (afterPage l keep progress fun results => (resume results).bind f)) =
      ([], Suspension.asking (.page l progress.cursor)
        fun answer => (afterPage l keep progress resume answer).bind f)
    rw [hpages]
  | log e rest ih =>
    show (Effect.log e :: (rest.bind f).settle.1, (rest.bind f).settle.2) = _
    rw [ih]
    rfl
  | publish stage samples rest ih =>
    show (Effect.publish stage samples :: (rest.bind f).settle.1, (rest.bind f).settle.2) = _
    rw [ih]
    rfl

/-! ## Runs -/

/-- The script went through these calls, did these effects on the way, and is now here. -/
inductive Reaches : Script α → List Call → List Effect → Suspension α → Prop
  | here (s : Script α) : Reaches s [] s.settle.1 s.settle.2
  | onward {s : Script α} {request : Request} {resume : Except ApiError request.Answer → Script α}
      {cs : List Call} {es : List Effect} {p : Suspension α}
      (asking : s.settle.2 = .asking request resume) (answer : Except ApiError request.Answer)
      (later : Reaches (resume answer) cs es p) :
      Reaches s (⟨request, answer⟩ :: cs) (s.settle.1 ++ es) p

theorem reaches_nil {s : Script α} {es : List Effect} {p : Suspension α} :
    s.Reaches [] es p ↔ es = s.settle.1 ∧ p = s.settle.2 := by
  constructor
  · intro h
    cases h
    exact ⟨rfl, rfl⟩
  · intro h
    obtain ⟨rfl, rfl⟩ := h
    exact .here s

theorem reaches_cons {s : Script α} {c : Call} {cs : List Call} {es : List Effect}
    {p : Suspension α} :
    s.Reaches (c :: cs) es p ↔
      ∃ resume later, s.settle.2 = .asking c.request resume ∧
        (resume c.answer).Reaches cs later p ∧ es = s.settle.1 ++ later := by
  constructor
  · intro h
    rcases h with _ | ⟨asking, answer, later⟩
    exact ⟨_, _, asking, later, rfl⟩
  · intro h
    obtain ⟨resume, later, asking, h, rfl⟩ := h
    exact .onward asking c.answer h

theorem reaches_done {a : α} {cs : List Call} {es : List Effect} {p : Suspension α} :
    Reaches (.done a) cs es p ↔ cs = [] ∧ es = [] ∧ p = .done a := by
  constructor
  · intro h
    rcases h with _ | ⟨asking, _, _⟩
    · exact ⟨rfl, rfl, rfl⟩
    · cases asking
  · intro h
    obtain ⟨rfl, rfl, rfl⟩ := h
    exact .here _

/-- Effects before a script are effects before all its runs. -/
theorem Reaches.after {s s' : Script α} {cs : List Call} {es : List Effect} {p : Suspension α}
    (h : s.Reaches cs es p) (before : List Effect)
    (hs : s'.settle = (before ++ s.settle.1, s.settle.2)) : s'.Reaches cs (before ++ es) p := by
  -- the effects come before the first wait, which is where both scripts stop
  cases h with
  | here => exact reaches_nil.2 ⟨by rw [hs], by rw [hs]⟩
  | @onward _ _ resume cs later _ asking answer hlater =>
    refine reaches_cons.2 ⟨resume, later, ?_, hlater, ?_⟩
    · rw [hs]
      exact asking
    · rw [hs]
      exact (List.append_assoc _ _ _).symm

/-- The answers decide everything that happens in a run. -/
theorem Reaches.unique {s : Script α} {cs : List Call} {es es' : List Effect}
    {p p' : Suspension α} (h : s.Reaches cs es p) (h' : s.Reaches cs es' p') :
    es = es' ∧ p = p' := by
  -- both runs wait for the same request, and its answer is part of the calls
  induction h generalizing es' p' with
  | here s =>
    obtain ⟨rfl, rfl⟩ := reaches_nil.1 h'
    exact ⟨rfl, rfl⟩
  | onward asking answer later ih =>
    obtain ⟨resume', later', asking', h', rfl⟩ := reaches_cons.1 h'
    rw [asking] at asking'
    obtain rfl := eq_of_heq (Suspension.asking.inj asking').2
    obtain ⟨rfl, rfl⟩ := ih h'
    exact ⟨rfl, rfl⟩

/-- A run that waits goes on with the answer to its request. -/
theorem Reaches.answered {s : Script α} {cs : List Call} {es : List Effect} {request : Request}
    {resume : Except ApiError request.Answer → Script α}
    (h : s.Reaches cs es (.asking request resume)) (answer : Except ApiError request.Answer) :
    s.Reaches (cs ++ [⟨request, answer⟩]) (es ++ (resume answer).settle.1)
      (resume answer).settle.2 := by
  -- the answer belongs to the last wait, so the calls before are passed one by one
  induction cs generalizing s es with
  | nil =>
    obtain ⟨rfl, hs⟩ := reaches_nil.1 h
    exact reaches_cons.2 ⟨resume, _, hs.symm, .here _, rfl⟩
  | cons c cs ih =>
    obtain ⟨next, later, asking, hlater, rfl⟩ := reaches_cons.1 h
    exact reaches_cons.2 ⟨next, _, asking, ih hlater, List.append_assoc _ _ _⟩

/-- While the first script waits, so does the whole. -/
theorem Reaches.bind_asking {s : Script α} {f : α → Script β} {cs : List Call}
    {es : List Effect} {request : Request} {resume : Except ApiError request.Answer → Script α}
    (h : s.Reaches cs es (.asking request resume)) :
    (s.bind f).Reaches cs es (.asking request fun answer => (resume answer).bind f) := by
  induction cs generalizing s es with
  | nil =>
    obtain ⟨rfl, hs⟩ := reaches_nil.1 h
    rw [reaches_nil, settle_bind, ← hs]
    exact ⟨(List.append_nil _).symm, rfl⟩
  | cons c cs ih =>
    obtain ⟨next, later, asking, hlater, rfl⟩ := reaches_cons.1 h
    refine reaches_cons.2 ⟨fun answer => (next answer).bind f, later, ?_, ih hlater, ?_⟩
    · rw [settle_bind, asking]
      rfl
    · rw [settle_bind, asking, Suspension.followedBy, List.append_nil]

/-- A run to the end of the first script goes on as a run of the second. -/
theorem Reaches.bind {s : Script α} {f : α → Script β} {cs₁ cs₂ : List Call}
    {es₁ es₂ : List Effect} {a : α} {p : Suspension β} (h₁ : s.Reaches cs₁ es₁ (.done a))
    (h₂ : (f a).Reaches cs₂ es₂ p) : (s.bind f).Reaches (cs₁ ++ cs₂) (es₁ ++ es₂) p := by
  -- on the calls of the first script; then the second one begins where it settles
  induction cs₁ generalizing s es₁ with
  | nil =>
    obtain ⟨rfl, hs⟩ := reaches_nil.1 h₁
    rw [List.nil_append]
    cases cs₂ with
    | nil =>
      obtain ⟨rfl, rfl⟩ := reaches_nil.1 h₂
      rw [reaches_nil, settle_bind, ← hs]
      exact ⟨rfl, rfl⟩
    | cons c cs₂ =>
      obtain ⟨resume, later, asking, hlater, rfl⟩ := reaches_cons.1 h₂
      refine reaches_cons.2 ⟨resume, later, ?_, hlater, ?_⟩
      · rw [settle_bind, ← hs]
        exact asking
      · rw [settle_bind, ← hs]
        exact (List.append_assoc _ _ _).symm
  | cons c cs₁ ih =>
    obtain ⟨resume, later, asking, hlater, rfl⟩ := reaches_cons.1 h₁
    refine reaches_cons.2 ⟨fun answer => (resume answer).bind f, later ++ es₂, ?_, ih hlater, ?_⟩
    · rw [settle_bind, asking]
      rfl
    · rw [settle_bind, asking, Suspension.followedBy, List.append_nil, List.append_assoc]

/-- A run of one script after another is still in the first one, or has passed through its end. -/
theorem reaches_bind {s : Script α} {f : α → Script β} {cs : List Call} {es : List Effect}
    {p : Suspension β} :
    (s.bind f).Reaches cs es p ↔
      (∃ request resume, s.Reaches cs es (.asking request resume) ∧
        p = .asking request fun answer => (resume answer).bind f) ∨
      ∃ cs₁ cs₂ es₁ es₂ a, cs = cs₁ ++ cs₂ ∧ es = es₁ ++ es₂ ∧
        s.Reaches cs₁ es₁ (.done a) ∧ (f a).Reaches cs₂ es₂ p := by
  constructor
  · intro h
    -- the script that a request belongs to is the first one until that has settled at its end
    induction cs generalizing s es with
    | nil =>
      obtain ⟨rfl, rfl⟩ := reaches_nil.1 h
      rw [settle_bind]
      cases hs : s.settle.2 with
      | done a =>
        exact .inr ⟨[], [], s.settle.1, (f a).settle.1, a, rfl, rfl, reaches_nil.2 ⟨rfl, hs.symm⟩,
          .here _⟩
      | asking request resume =>
        exact .inl ⟨request, resume, reaches_nil.2 ⟨List.append_nil _, hs.symm⟩, rfl⟩
    | cons c cs ih =>
      obtain ⟨resume, later, asking, hlater, rfl⟩ := reaches_cons.1 h
      rw [settle_bind] at asking ⊢
      cases hs : s.settle.2 with
      | done a =>
        rw [hs] at asking
        exact .inr ⟨[], c :: cs, s.settle.1, _, a, rfl, List.append_assoc _ _ _,
          reaches_nil.2 ⟨rfl, hs.symm⟩, reaches_cons.2 ⟨resume, later, asking, hlater, rfl⟩⟩
      | asking request next =>
        rw [hs] at asking
        obtain ⟨rfl, hresume⟩ := Suspension.asking.inj asking
        obtain rfl := eq_of_heq hresume
        rw [Suspension.followedBy, List.append_nil]
        rcases ih hlater with ⟨r, k, hk, rfl⟩ | ⟨cs₁, cs₂, es₁, es₂, a, rfl, rfl, h₁, h₂⟩
        · exact .inl ⟨r, k, reaches_cons.2 ⟨next, later, hs, hk, rfl⟩, rfl⟩
        · exact .inr ⟨c :: cs₁, cs₂, s.settle.1 ++ es₁, es₂, a, rfl,
            (List.append_assoc _ _ _).symm, reaches_cons.2 ⟨next, es₁, hs, h₁, rfl⟩, h₂⟩
  · intro h
    rcases h with ⟨request, resume, h, rfl⟩ | ⟨cs₁, cs₂, es₁, es₂, a, rfl, rfl, h₁, h₂⟩
    · exact h.bind_asking
    · exact h₁.bind h₂

end Script

end FabricGauges
