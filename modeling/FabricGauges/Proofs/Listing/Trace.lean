import FabricGauges.Listing.Walk

/-!
# What a walk does

A walk is written for any effects that asking and accepting may have. Without effects a page is
filtered, and a walk that leaves traces leaves those of its first page and then those of the others,
so its log can be read off page by page.
-/

namespace FabricGauges

/-! ## Offering results -/

section

variable {m : Type → Type} [Monad m] [LawfulMonad m] {α : Type}

theorem filterAuxM_eq (keep : α → m Bool) (results found : List α) :
    results.filterAuxM keep found =
      (· ++ found) <$> results.filterAuxM keep [] := by
  induction results generalizing found with
  | nil => simp
  | cons x results ih =>
    simp only [List.filterAuxM, map_bind]
    refine bind_congr fun accepted => ?_
    rw [ih, ih (cond accepted [x] [])]
    cases accepted <;> simp

/-- The first result is offered before the others. -/
theorem filterM_cons (keep : α → m Bool) (x : α) (results : List α) :
    (x :: results).filterM keep = do
      let accepted ← keep x
      let others ← results.filterM keep
      return if accepted then x :: others else others := by
  simp only [List.filterM, List.filterAuxM, bind_assoc, pure_bind]
  refine bind_congr fun accepted => ?_
  rw [filterAuxM_eq]
  cases accepted <;> simp

/-- Filtering two lists after one another filters what they make together. -/
theorem filterM_append (keep : α → m Bool) (results more : List α) :
    (results ++ more).filterM keep = do
      let found ← results.filterM keep
      let others ← more.filterM keep
      return found ++ others := by
  induction results with
  | nil => simp [List.filterM]
  | cons x results ih =>
    rw [List.cons_append, filterM_cons, filterM_cons, ih]
    simp only [bind_assoc, pure_bind]
    refine bind_congr fun accepted => bind_congr fun found => bind_congr fun others => ?_
    cases accepted <;> rfl

/-- Without effects, offering results filters them. -/
theorem filterM_pure (keep : α → Bool) (results : List α) :
    results.filterM (fun x => (pure (keep x) : m Bool)) = pure (results.filter keep) := by
  induction results with
  | nil => simp [List.filterM]
  | cons x results ih =>
    rw [filterM_cons, ih, pure_bind, pure_bind, List.filter_cons]

end

namespace Walk

variable {ε α : Type} (fetch : Nat → Option String → Except ε (Page α)) (keep : α → Bool)

/-! ## Pages -/

theorem advance_eq (w : Walk α) (page : Page α) :
    w.advance keep page = ⟨page.next?, w.pages + 1, w.kept ++ page.results.filter keep⟩ := by
  rw [advance, advanceM, filterM_pure, pure_bind]
  rfl

theorem take_eq (w : Walk α) (page : Page α) :
    w.take keep page =
      if (w.advance keep page).cursor.isSome then .more (w.advance keep page)
      else .finished (w.advance keep page) := rfl

/-! ## Traces -/

/-- Every result of a page that is offered leaves a trace, in the order of the page. -/
theorem run_filterM_traceKeep (results : List α) (t : Trace α) :
    (results.filterM (traceKeep keep)).run t =
      (results.filter keep, ⟨t.asked, t.offered ++ results⟩) := by
  induction results generalizing t with
  | nil => rw [List.append_nil]; rfl
  | cons x results ih =>
    rw [filterM_cons]
    show (do
        let others ← results.filterM (traceKeep keep)
        return if keep x then x :: others else others : StateM (Trace α) (List α)).run
      ⟨t.asked, t.offered ++ [x]⟩ = _
    rw [StateT.run_bind, ih, List.append_assoc, List.filter_cons]
    rfl

/-- A page is taken as without a trace, and its items are the ones offered. -/
theorem run_takeM_traceKeep (w : Walk α) (page : Page α) (t : Trace α) :
    (w.takeM (traceKeep keep) page).run t =
      (w.take keep page, ⟨t.asked, t.offered ++ page.results⟩) := by
  rw [take_eq, advance_eq, takeM, advanceM, bind_assoc, StateT.run_bind, run_filterM_traceKeep]
  rfl

/-- One page of a walk that leaves traces. -/
theorem run_runM_succ (limit : Nat) (w : Walk α) (t : Trace α) :
    (runM (traceFetch fetch) (traceKeep keep) (limit + 1) w).run t =
      match fetch w.pages w.cursor with
      | .error error => (.failed error, ⟨t.asked ++ [w.cursor], t.offered⟩)
      | .ok page =>
        let t : Trace α := ⟨t.asked ++ [w.cursor], t.offered ++ page.results⟩
        match w.take keep page with
        | .finished w' => (.finished w', t)
        | .more w' => (runM (traceFetch fetch) (traceKeep keep) limit w').run t := by
  have hfetch : (traceFetch fetch w.pages w.cursor).run t =
      (fetch w.pages w.cursor, ⟨t.asked ++ [w.cursor], t.offered⟩) := rfl
  rw [runM, StateT.run_bind, hfetch]
  cases fetch w.pages w.cursor with
  | error error => rfl
  | ok page =>
    show ((w.takeM (traceKeep keep) page >>= _).run _ : Outcome ε α × Trace α) = _
    rw [StateT.run_bind, run_takeM_traceKeep]
    dsimp only
    cases w.take keep page <;> rfl

/-- Traces are left behind those that there are. -/
theorem run_runM_append (limit : Nat) (w : Walk α) (t : Trace α) :
    (runM (traceFetch fetch) (traceKeep keep) limit w).run t =
      ((run fetch keep limit w).outcome, ⟨t.asked ++ (run fetch keep limit w).asked,
        t.offered ++ (run fetch keep limit w).offered⟩) := by
  unfold run
  -- over every trace, since each page is asked for behind another one
  induction limit generalizing w t with
  | zero =>
    show (Outcome.unfinished w, t) = (Outcome.unfinished w, ⟨t.asked ++ [], t.offered ++ []⟩)
    rw [List.append_nil, List.append_nil]
  | succ limit ih =>
    rw [run_runM_succ, run_runM_succ]
    cases fetch w.pages w.cursor with
    | error error => simp
    | ok page =>
      dsimp only
      cases w.take keep page with
      | finished w' => simp
      | more w' =>
        dsimp only
        rw [ih w' ⟨t.asked ++ [w.cursor], t.offered ++ page.results⟩,
          ih w' ⟨[] ++ [w.cursor], [] ++ page.results⟩]
        simp

theorem run_zero (w : Walk α) : run fetch keep 0 w = ⟨[], [], .unfinished w⟩ := rfl

/-- The log of a walk is that of its first page and then that of the others. -/
theorem run_succ (limit : Nat) (w : Walk α) :
    run fetch keep (limit + 1) w =
      match fetch w.pages w.cursor with
      | .error error => ⟨[w.cursor], [], .failed error⟩
      | .ok page =>
        match w.take keep page with
        | .finished w' => ⟨[w.cursor], page.results, .finished w'⟩
        | .more w' =>
          let later := run fetch keep limit w'
          ⟨w.cursor :: later.asked, page.results ++ later.offered, later.outcome⟩ := by
  rw [run, run_runM_succ]
  cases fetch w.pages w.cursor with
  | error error => rfl
  | ok page =>
    dsimp only
    cases w.take keep page with
    | finished w' => rfl
    | more w' =>
      dsimp only
      rw [run_runM_append]
      rfl

end Walk

end FabricGauges
