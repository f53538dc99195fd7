import FabricGauges.Proofs.Script.Protocol

/-!
# Runs in parts

A run of a list of scripts to its results is made of one run for each of them: their calls together
are the calls of the whole, and their results are its results. A walk to its end has kept the
results of its pages that are to be kept, and no others.
-/

namespace FabricGauges.Fetch

open Script (Effect)

variable {α σ : Type} {cs : List Call} {es : List Effect}

/-! ## Lists of scripts -/

/-- A run of a script from one of many arguments, to its result. -/
structure Part (f : σ → Fetch α) where
  given : σ
  calls : List Call
  result : α
  runs : ∃ es, Runs (f given) calls es (.ok result)

/-- A run of a list of scripts is cut where one hands over to the next. -/
theorem exists_parts {f : σ → Fetch α} {ss : List σ} {as : List α}
    (h : Runs (ss.mapM f) cs es (.ok as)) :
    ∃ parts : List (Part f), parts.map (·.given) = ss ∧ parts.flatMap (·.calls) = cs ∧
      parts.map (·.result) = as := by
  induction ss generalizing cs es as with
  | nil =>
    rw [List.mapM_nil] at h
    obtain ⟨rfl, -, has⟩ := runs_pure.1 h
    obtain rfl := Except.ok.inj has
    exact ⟨[], rfl, rfl, rfl⟩
  | cons s ss ih =>
    rw [List.mapM_cons] at h
    obtain ⟨cs₁, _, es₁, _, a, rfl, rfl, hfirst, h⟩ := runs_bind_ok.1 h
    obtain ⟨cs₂, _, es₂, _, as', rfl, rfl, hrest, h⟩ := runs_bind_ok.1 h
    obtain ⟨rfl, -, has⟩ := runs_pure.1 h
    obtain rfl := Except.ok.inj has
    obtain ⟨parts, rfl, rfl, rfl⟩ := ih hrest
    refine ⟨⟨s, cs₁, a, es₁, hfirst⟩ :: parts, rfl, ?_, rfl⟩
    rw [List.flatMap_cons, List.append_nil]

/-! ## Steps of a script -/

/-- A request whose answer is gone on with has been answered with a document. -/
theorem of_runs_ask_bind {q : Request} {f : q.Answer → Fetch α} {a : α}
    (h : Runs (ask q >>= f) cs es (.ok a)) :
    ∃ document rest, cs = ⟨q, .ok document⟩ :: rest ∧ Runs (f document) rest es (.ok a) := by
  obtain ⟨_, rest, _, _, document, rfl, rfl, hask, hrest⟩ := runs_bind_ok.1 h
  obtain ⟨answer, rfl, rfl, hanswer⟩ := runs_ask.1 hask
  cases answer with
  | error e => cases hanswer
  | ok document' =>
    cases hanswer
    exact ⟨document, rest, rfl, hrest⟩

/-- A script that goes on has found what it requires. -/
theorem of_runs_require_bind {e : ScrapeError} {o : Option σ} {f : σ → Fetch α} {a : α}
    (h : Runs (require e o >>= f) cs es (.ok a)) : ∃ s, o = some s ∧ Runs (f s) cs es (.ok a) := by
  obtain ⟨_, _, _, _, s, rfl, rfl, hrequire, hrest⟩ := runs_bind_ok.1 h
  obtain ⟨rfl, rfl, hs⟩ := runs_require.1 hrequire
  cases o with
  | none => cases hs
  | some s' =>
    cases hs
    exact ⟨s, rfl, hrest⟩

/-- A script that goes on has a result to go on with. -/
theorem of_runs_ofExcept_bind {result : Except ScrapeError σ} {f : σ → Fetch α} {a : α}
    (h : Runs (ofExcept result >>= f) cs es (.ok a)) :
    ∃ s, result = .ok s ∧ Runs (f s) cs es (.ok a) := by
  obtain ⟨_, _, _, _, s, rfl, rfl, hresult, hrest⟩ := runs_bind_ok.1 h
  obtain ⟨rfl, rfl, hs⟩ := runs_ofExcept.1 hresult
  exact ⟨s, hs.symm, hrest⟩

/-- Logging makes no calls. -/
theorem of_runs_log_bind {e : Event} {f : Unit → Fetch α} {a : α}
    (h : Runs (log e >>= f) cs es (.ok a)) : ∃ rest, Runs (f ()) cs rest (.ok a) := by
  obtain ⟨_, _, _, rest, _, rfl, rfl, hlog, hrest⟩ := runs_bind_ok.1 h
  obtain ⟨rfl, rfl, -⟩ := runs_log.1 hlog
  exact ⟨rest, hrest⟩

/-! ## Listings -/

/-- A result of a listing is on one of the pages that have been answered. -/
def Offered (cs : List Call) (l : Listing) (x : l.Item) : Prop :=
  ∃ cursor page, ⟨.page l cursor, .ok page⟩ ∈ cs ∧ x ∈ page.results

theorem offered_append {cs cs' : List Call} {l : Listing} {x : l.Item} :
    Offered (cs ++ cs') l x ↔ Offered cs l x ∨ Offered cs' l x := by
  unfold Offered
  simp only [List.mem_append, or_and_right, exists_or]

theorem offered_page {l : Listing} {cursor : Option String} {page : Page l.Item} {x : l.Item} :
    Offered [⟨.page l cursor, .ok page⟩] l x ↔ x ∈ page.results := by
  constructor
  · intro h
    obtain ⟨cursor', page', hmem, hx⟩ := h
    cases List.mem_singleton.1 hmem
    exact hx
  · intro hx
    exact ⟨cursor, page, List.mem_singleton_self _, hx⟩

/-- A walk to its end has kept what the pages offer and is to be kept. -/
theorem mem_of_runs_walk {l : Listing} {keep : l.Item → Bool} {kept : List l.Item}
    (h : Runs (walk l keep) cs es (.ok kept)) {x : l.Item} :
    x ∈ kept ↔ keep x ∧ Offered cs l x := by
  have hkeeps : Obeys (fun _ _ => True) (fun _ _ => True) [] (walk l keep) fun cs kept =>
      ∀ x, x ∈ kept ↔ keep x ∧ Offered cs l x := by
    refine obeys_walk (fun w cs => ∀ x, x ∈ w.kept ↔ keep x ∧ Offered cs l x) ?_
      (fun _ _ _ => trivial) (fun _ _ _ _ => trivial) ?_
    · intro x
      simp [Walk.start, Offered]
    · intro w cs page hw
      have hnext : ∀ x, x ∈ (w.advance keep page).kept ↔
          keep x ∧ Offered (cs ++ [⟨.page l w.cursor, .ok page⟩]) l x := by
        intro x
        rw [Walk.advance_eq, List.mem_append, List.mem_filter, hw, offered_append, offered_page,
          and_or_left, and_comm (a := x ∈ page.results)]
      -- the page is taken in the same way whether it is the last one or not
      rw [Walk.take_eq]
      cases (w.advance keep page).cursor.isSome with
      | true => exact hnext
      | false => exact hnext
  exact (Script.Obeys.reaches hkeeps h).1 (.ok kept) rfl x

end FabricGauges.Fetch
