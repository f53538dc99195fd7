import FabricGauges.Proofs.Listing.Chain
import FabricGauges.Proofs.Listing.Trace
import Mathlib.Order.Bounds.Defs

/-!
# The pages of a walk

A walk asks for its first page without a cursor and for each further page with the cursor of the
page before, so the answers alone say which calls it makes: the cursor of a call is what the answer
before hands out. The walk ends at the first answer that hands out none.

`Walk.progress` is the walk before a call, told by the answers to the calls before. One answer takes
it from there to the progress before the next call, and so a walk from any call on goes through the
calls up to the last one.
-/

namespace FabricGauges

namespace Walk

variable {ε α : Type} (fetch : Nat → Option String → Except ε (Page α)) (keep : α → Bool)

/-! ## Calls and answers -/

/-- The cursor of a call: none at first, then the one that the answer before hands out. -/
def cursorOf : Nat → Option String
  | 0 => none
  | i + 1 => nextCursor? (fetch i (cursorOf i))

/-- The answer to a call. -/
def answerTo (i : Nat) : Except ε (Page α) := fetch i (cursorOf fetch i)

/-- A walk ends with an error, or with a page whose cursor is absent or empty. -/
def Ends : Except ε (Page α) → Prop
  | .error _ => True
  | .ok page => page.cursor = none ∨ page.cursor = some ""

/-- The results in an answer. -/
def resultsIn : Except ε (Page α) → List α
  | .error _ => []
  | .ok page => page.results

/-- The results of the first pages, one page after the other. -/
def resultsOf (count : Nat) : List α :=
  (List.range count).flatMap fun i => resultsIn (answerTo fetch i)

/-- The walk before a call. -/
def progress (i : Nat) : Walk α := ⟨cursorOf fetch i, i, (resultsOf fetch i).filter keep⟩

/-- What comes of a walk whose last call this is and which has kept these results. -/
def outcomeAt (n : Nat) (kept : List α) : Outcome ε α :=
  match answerTo fetch n with
  | .error e => .failed e
  | .ok _ => .finished ⟨none, n + 1, kept⟩

theorem nextCursor?_eq_none_iff {answer : Except ε (Page α)} :
    nextCursor? answer = none ↔ Ends answer := by
  rcases answer with e | ⟨results, cursor, count⟩
  · exact iff_of_true rfl trivial
  · rcases cursor with _ | c
    · exact iff_of_true rfl (.inl rfl)
    · show Option.filter (!·.isEmpty) (some c) = none ↔ some c = none ∨ some c = some ""
      by_cases hc : c = ""
      · subst hc
        exact iff_of_true rfl (.inr rfl)
      · simp [hc]

/-- An answer that does not end the walk is a page, and its cursor is that of the next call. -/
theorem exists_page_of_not_ends {i : Nat} (h : ¬Ends (answerTo fetch i)) :
    ∃ page c, answerTo fetch i = .ok page ∧ page.cursor = some c ∧ c ≠ "" ∧
      cursorOf fetch (i + 1) = some c := by
  cases hanswer : answerTo fetch i with
  | error e =>
    rw [hanswer] at h
    exact absurd trivial h
  | ok page =>
    rw [hanswer] at h
    obtain ⟨c, hcursor⟩ : ∃ c, page.cursor = some c :=
      Option.ne_none_iff_exists'.1 fun hnone => h (.inl hnone)
    have hne : c ≠ "" := fun hc => h (.inr (hc ▸ hcursor))
    refine ⟨page, c, rfl, hcursor, hne, ?_⟩
    show nextCursor? (answerTo fetch i) = some c
    rw [hanswer, nextCursor?, Page.next?, hcursor]
    simp [hne]

/-! ## One answer further -/

theorem resultsOf_succ (i : Nat) :
    resultsOf fetch (i + 1) = resultsOf fetch i ++ resultsIn (answerTo fetch i) := by
  simp [resultsOf, List.range_succ]

/-- A page takes the walk to its progress before the next call. -/
theorem advance_progress {i : Nat} {page : Page α} (h : answerTo fetch i = .ok page) :
    (progress fetch keep i).advance keep page = progress fetch keep (i + 1) := by
  have hcursor : cursorOf fetch (i + 1) = page.next? := by
    show nextCursor? (answerTo fetch i) = page.next?
    rw [h]
    rfl
  rw [advance_eq, progress, progress, hcursor, resultsOf_succ, h, List.filter_append]
  rfl

theorem take_progress {i : Nat} {page : Page α} (h : answerTo fetch i = .ok page) :
    (progress fetch keep i).take keep page =
      if (cursorOf fetch (i + 1)).isSome then .more (progress fetch keep (i + 1))
      else .finished (progress fetch keep (i + 1)) := by
  rw [take_eq, advance_progress fetch keep h]
  rfl

theorem fetch_progress (i : Nat) :
    fetch (progress fetch keep i).pages (progress fetch keep i).cursor = answerTo fetch i := rfl

/-- The walk stops at an answer that ends it. -/
theorem run_of_ends {i : Nat} (h : Ends (answerTo fetch i)) (limit : Nat) :
    run fetch keep (limit + 1) (progress fetch keep i) =
      ⟨[cursorOf fetch i], resultsIn (answerTo fetch i),
        outcomeAt fetch i ((resultsOf fetch (i + 1)).filter keep)⟩ := by
  have hnone : cursorOf fetch (i + 1) = none := nextCursor?_eq_none_iff.2 h
  rw [run_succ, outcomeAt, fetch_progress fetch keep i]
  cases hanswer : answerTo fetch i with
  | error e => rfl
  | ok page =>
    dsimp only
    rw [take_progress fetch keep hanswer, progress, hnone]
    rfl

/-- The walk goes on with the next call after an answer that does not end it. -/
theorem run_of_not_ends {i : Nat} (h : ¬Ends (answerTo fetch i)) (limit : Nat) :
    run fetch keep (limit + 1) (progress fetch keep i) =
      let later := run fetch keep limit (progress fetch keep (i + 1))
      ⟨cursorOf fetch i :: later.asked, resultsIn (answerTo fetch i) ++ later.offered,
        later.outcome⟩ := by
  obtain ⟨page, c, hanswer, -, -, hcursor⟩ := exists_page_of_not_ends fetch h
  rw [run_succ, fetch_progress fetch keep i, hanswer]
  dsimp only
  rw [take_progress fetch keep hanswer, hcursor]
  rfl

/-! ## Part of the way -/

/-- However far a walk gets from some call on, it makes the calls in turn, each one after an answer
that does not end it. -/
theorem asked_run_progress (limit i : Nat) :
    ∃ count, (run fetch keep limit (progress fetch keep i)).asked =
        (List.range' i count).map (cursorOf fetch) ∧
      ∀ j, i ≤ j → j + 1 < i + count → ¬Ends (answerTo fetch j) := by
  induction limit generalizing i with
  | zero => exact ⟨0, rfl, fun j hij hj => by omega⟩
  | succ limit ih =>
    by_cases hends : Ends (answerTo fetch i)
    · refine ⟨1, ?_, fun j hij hj => by omega⟩
      rw [run_of_ends fetch keep hends]
      rfl
    · obtain ⟨count, hasked, hon⟩ := ih (i + 1)
      refine ⟨count + 1, ?_, fun j hij hj => ?_⟩
      · rw [run_of_not_ends fetch keep hends, List.range'_succ, List.map_cons, ← hasked]
      · rcases Nat.eq_or_lt_of_le hij with rfl | hlt
        · exact hends
        · exact hon j hlt (by omega)

/-- What a walk asks for after a page is the page for the cursor of that one. -/
theorem exists_page_of_asked {limit i : Nat} {cursor later : Option String}
    (h : (run fetch keep limit start).asked[i]? = some cursor)
    (hlater : (run fetch keep limit start).asked[i + 1]? = some later) :
    ∃ page text, fetch i cursor = .ok page ∧ page.cursor = some text ∧ later = some text := by
  obtain ⟨count, hasked, hon⟩ := asked_run_progress fetch keep limit 0
  rw [← List.range_eq_range'] at hasked
  have hplace {j : Nat} {asked : Option String}
      (hj : (run fetch keep limit start).asked[j]? = some asked) :
      j < count ∧ cursorOf fetch j = asked := by
    have hmap : ((List.range count).map (cursorOf fetch))[j]? = some asked := hasked ▸ hj
    obtain ⟨hlt, heq⟩ := List.getElem?_eq_some_iff.1 hmap
    rw [List.length_map, List.length_range] at hlt
    rw [List.getElem_map, List.getElem_range] at heq
    exact ⟨hlt, heq⟩
  obtain ⟨-, rfl⟩ := hplace h
  obtain ⟨hlt, rfl⟩ := hplace hlater
  obtain ⟨page, text, hpage, htext, -, hcursor⟩ :=
    exists_page_of_not_ends fetch (hon i (Nat.zero_le i) (by omega))
  exact ⟨page, text, hpage, htext, hcursor⟩

/-! ## All the way -/

variable {n : Nat}

/-- From any call on, the walk makes the calls up to the last one. -/
theorem run_progress (hlast : Ends (answerTo fetch n))
    (hbefore : ∀ i < n, ¬Ends (answerTo fetch i)) (left i limit : Nat)
    (hi : i + left = n) (hlimit : left < limit) :
    run fetch keep limit (progress fetch keep i) =
      ⟨(List.range' i (left + 1)).map (cursorOf fetch),
        (List.range' i (left + 1)).flatMap fun j => resultsIn (answerTo fetch j),
        outcomeAt fetch n ((resultsOf fetch (n + 1)).filter keep)⟩ := by
  -- on the number of calls before the last one
  induction left generalizing i limit with
  | zero =>
    obtain ⟨limit, rfl⟩ : ∃ m, limit = m + 1 := ⟨limit - 1, by omega⟩
    obtain rfl : i = n := by omega
    rw [run_of_ends fetch keep hlast]
    simp
  | succ left ih =>
    obtain ⟨limit, rfl⟩ : ∃ m, limit = m + 1 := ⟨limit - 1, by omega⟩
    have hlater := ih (i + 1) limit (by omega) (by omega)
    rw [run_of_not_ends fetch keep (hbefore i (by omega)), hlater, List.range'_succ]
    rfl

/-- Whatever effects accepting has, they are those of offering the results of all pages to the last
one, in their order. -/
theorem runM_progress {m : Type → Type} [Monad m] [LawfulMonad m] (accept : α → m Bool)
    (hlast : Ends (answerTo fetch n)) (hbefore : ∀ i < n, ¬Ends (answerTo fetch i))
    (left i limit : Nat) (kept : List α) (hi : i + left = n) (hlimit : left < limit) :
    runM (fun call cursor => pure (fetch call cursor)) accept limit ⟨cursorOf fetch i, i, kept⟩ =
      (fun found => outcomeAt fetch n (kept ++ found)) <$>
        ((List.range' i (left + 1)).flatMap fun j =>
          resultsIn (answerTo fetch j)).filterM accept := by
  -- on the pages that are left, for every page that the walk may be at
  induction left generalizing i limit kept with
  | zero =>
    obtain ⟨limit, rfl⟩ : ∃ m, limit = m + 1 := ⟨limit - 1, by omega⟩
    obtain rfl : i = n := by omega
    have hnone : nextCursor? (answerTo fetch i) = none := nextCursor?_eq_none_iff.2 hlast
    rw [runM, pure_bind]
    show (match answerTo fetch i with | .error e => _ | .ok page => _) = _
    cases hanswer : answerTo fetch i with
    | error e => simp [outcomeAt, hanswer, resultsIn, List.filterM]
    | ok page =>
      have hnext : page.next? = none := by rwa [hanswer] at hnone
      simp [outcomeAt, hanswer, resultsIn, takeM, advanceM, hnext]
  | succ left ih =>
    obtain ⟨limit, rfl⟩ : ∃ m, limit = m + 1 := ⟨limit - 1, by omega⟩
    obtain ⟨page, c, hanswer, -, -, hcursor⟩ :=
      exists_page_of_not_ends fetch (hbefore i (by omega))
    have hnext : page.next? = some c := by
      rw [← hcursor]
      show page.next? = nextCursor? (answerTo fetch i)
      rw [hanswer]
      rfl
    rw [runM, pure_bind]
    show (match answerTo fetch i with | .error e => _ | .ok page => _) = _
    have hresults : resultsIn (answerTo fetch i) = page.results := by rw [hanswer]; rfl
    rw [hanswer, List.range'_succ, List.flatMap_cons, hresults, filterM_append]
    dsimp only
    rw [takeM, advanceM, hnext]
    simp only [bind_assoc, pure_bind, map_bind, Option.isSome_some, if_true, map_pure]
    refine bind_congr fun found => ?_
    have hlater := ih (i + 1) limit (kept ++ found) (by omega) (by omega)
    rw [hcursor] at hlater
    rw [hlater]
    simp only [map_eq_pure_bind, List.append_assoc]

/-- If some answer ends a walk, the walk asks for exactly the pages up to the first such answer:
the first one without a cursor, each further one with the cursor of the page before. Every result of
these pages is offered once, in the order of the pages. An error is what comes of the walk if the
last answer is one; otherwise the accepted results are, in that order. And if accepting a result has
effects, say on those that come later, the walk has no others than offering all these results one
after the other. -/
theorem pages_are_walked_to_first_end (hn : IsLeast {i | Ends (answerTo fetch i)} n) {limit : Nat}
    (hlimit : n < limit) :
    cursorOf fetch 0 = none ∧
    (∀ i < n, ∃ page c, answerTo fetch i = .ok page ∧ page.cursor = some c ∧ c ≠ "" ∧
      cursorOf fetch (i + 1) = some c) ∧
    (run fetch keep limit start).asked = (List.range (n + 1)).map (cursorOf fetch) ∧
    (run fetch keep limit start).offered = resultsOf fetch (n + 1) ∧
    (∀ e, answerTo fetch n = .error e → (run fetch keep limit start).outcome = .failed e) ∧
    (∀ page, answerTo fetch n = .ok page → (run fetch keep limit start).outcome =
      .finished ⟨none, n + 1, (resultsOf fetch (n + 1)).filter keep⟩) ∧
    ∀ (σ : Type) (accept : α → StateM σ Bool),
      runM (fun call cursor => pure (fetch call cursor)) accept limit start =
        outcomeAt fetch n <$> (resultsOf fetch (n + 1)).filterM accept := by
  have hlast : Ends (answerTo fetch n) := hn.1
  have hbefore : ∀ i < n, ¬Ends (answerTo fetch i) :=
    fun i hi hends => absurd (hn.2 hends) (Nat.not_le.2 hi)
  -- the walk from its first page on
  have hrun : run fetch keep limit start = _ :=
    run_progress fetch keep hlast hbefore n 0 limit (Nat.zero_add n) hlimit
  rw [← List.range_eq_range'] at hrun
  rw [hrun]
  refine ⟨rfl, fun i hi => exists_page_of_not_ends fetch (hbefore i hi), rfl, rfl, ?_, ?_, ?_⟩
  · intro e he
    show outcomeAt fetch n _ = _
    rw [outcomeAt, he]
  · intro page hpage
    show outcomeAt fetch n _ = _
    rw [outcomeAt, hpage]
  · intro σ accept
    have heffects := runM_progress fetch accept hlast hbefore n 0 limit [] (Nat.zero_add n) hlimit
    rw [← List.range_eq_range'] at heffects
    exact heffects

/-- Three pages, the last of which has an empty cursor, and the odd results of them. -/
theorem three_pages_are_walked :
    let fetch : Nat → Option String → Except Unit (Page Nat) := fun _ cursor =>
      .ok <| if cursor = none then ⟨[1, 2], some "a", none⟩
        else if cursor = some "a" then ⟨[3, 4, 3], some "b", none⟩ else ⟨[5], some "", none⟩
    IsLeast {i | Ends (answerTo fetch i)} 2 ∧ 2 < 100 ∧
      (run fetch (· % 2 = 1) 100 start).asked = [none, some "a", some "b"] ∧
      (run fetch (· % 2 = 1) 100 start).offered = [1, 2, 3, 4, 3, 5] ∧
      (run fetch (· % 2 = 1) 100 start).outcome = .finished ⟨none, 3, [1, 3, 3, 5]⟩ := by
  intro fetch
  have hleast : IsLeast {i | Ends (answerTo fetch i)} 2 := by
    refine ⟨.inr rfl, fun i hi => ?_⟩
    rcases i with _ | _ | i
    · exact absurd hi (show ¬(some "a" = none ∨ some "a" = some "") by decide)
    · exact absurd hi (show ¬(some "b" = none ∨ some "b" = some "") by decide)
    · exact Nat.le_add_left 2 i
  obtain ⟨-, -, hasked, hoffered, -, hfinished, -⟩ :=
    pages_are_walked_to_first_end fetch (· % 2 = 1) hleast (show 2 < 100 by decide)
  refine ⟨hleast, by decide, hasked, hoffered, ?_⟩
  exact hfinished ⟨[5], some "", none⟩ rfl

end Walk

end FabricGauges
