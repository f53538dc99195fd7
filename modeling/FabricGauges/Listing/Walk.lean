import FabricGauges.Manager.Page

/-!
# Walking a listing

A listing is walked page by page: the first page is asked for without a cursor, each further page
with the cursor of the page before, and a page without a cursor is the last. Every result of a page
is offered, and those that are accepted are kept in the order of the pages. Asking and accepting may
both have effects. A walk holds all its progress, so it can be taken up with every answer; whether
it ends is up to the manager.
-/

namespace FabricGauges

/-- A walk through a listing, between two pages. -/
structure Walk (α : Type) where
  /-- The cursor of the page to be asked for. -/
  cursor : Option String
  /-- The number of pages so far. -/
  pages : Nat
  /-- The accepted results so far. -/
  kept : List α

namespace Walk

variable {m : Type → Type} [Monad m] {ε α : Type}

/-- Before the first page. -/
def start : Walk α := ⟨none, 0, []⟩

/-- The walk after a page, the results of which are offered one after the other. -/
def advanceM (keep : α → m Bool) (w : Walk α) (page : Page α) : m (Walk α) := do
  let accepted ← page.results.filterM keep
  return ⟨page.next?, w.pages + 1, w.kept ++ accepted⟩

/-- How a walk goes on after a page. -/
inductive Next (α : Type) where
  | more (w : Walk α)
  | finished (w : Walk α)

/-- Takes a page: there is more to ask for if the page has a cursor. -/
def takeM (keep : α → m Bool) (w : Walk α) (page : Page α) : m (Next α) := do
  let w ← w.advanceM keep page
  return if w.cursor.isSome then .more w else .finished w

/-- What has become of a walk against an answering function. -/
inductive Outcome (ε α : Type) where
  | finished (w : Walk α)
  | failed (error : ε)
  /-- The number of pages that were allowed has been asked for. -/
  | unfinished (w : Walk α)

/-- At most `limit` pages of a walk. A page is asked for by the number of the call and the
cursor. -/
def runM (fetch : Nat → Option String → m (Except ε (Page α))) (keep : α → m Bool) :
    (limit : Nat) → Walk α → m (Outcome ε α)
  | 0, w => return .unfinished w
  | limit + 1, w => do
    match ← fetch w.pages w.cursor with
    | .error error => return .failed error
    | .ok page =>
      match ← w.takeM keep page with
      | .finished w => return .finished w
      | .more w => runM fetch keep limit w

/-! ## Without effects -/

/-- The walk after a page, if accepting has no effects. -/
def advance (keep : α → Bool) (w : Walk α) (page : Page α) : Walk α :=
  (w.advanceM (m := Id) (fun result => pure (keep result)) page).run

/-- Takes a page, if accepting has no effects. -/
def take (keep : α → Bool) (w : Walk α) (page : Page α) : Next α :=
  (w.takeM (m := Id) (fun result => pure (keep result)) page).run

/-! ## Traces -/

/-- What a walk has done so far. -/
structure Trace (α : Type) where
  /-- The cursor of each page that it has asked for. -/
  asked : List (Option String)
  /-- Each result that it has offered. -/
  offered : List α

/-- Asks for a page, and leaves a trace of that. -/
def traceFetch (fetch : Nat → Option String → Except ε (Page α)) (call : Nat)
    (cursor : Option String) : StateM (Trace α) (Except ε (Page α)) := do
  modify fun t => { t with asked := t.asked ++ [cursor] }
  return fetch call cursor

/-- Accepts a result or does not, and leaves a trace of that. -/
def traceKeep (keep : α → Bool) (result : α) : StateM (Trace α) Bool := do
  modify fun t => { t with offered := t.offered ++ [result] }
  return keep result

/-- A walk against an answering function, from beginning to end. -/
structure Log (ε α : Type) where
  /-- The cursor of each page that was asked for. -/
  asked : List (Option String)
  /-- Each result that was offered, accepted or not. -/
  offered : List α
  outcome : Outcome ε α

/-- At most `limit` pages of a walk and its trace, the answers depending on the number of the call
and on its cursor. -/
def run (fetch : Nat → Option String → Except ε (Page α)) (keep : α → Bool) (limit : Nat)
    (w : Walk α) : Log ε α :=
  let (outcome, trace) := (runM (traceFetch fetch) (traceKeep keep) limit w).run ⟨[], []⟩
  ⟨trace.asked, trace.offered, outcome⟩

end Walk

end FabricGauges
