import FabricGauges.Proofs.Cycle.Listed
import FabricGauges.Proofs.Cycle.Record
import FabricGauges.Proofs.Listing.Chain

/-!
# Cycles that come to their end

Nothing bounds a walk but the manager: it ends with a page that hands out no cursor, or with an
error. If each cursor has a fixed page, the pages of a walk follow the chain of cursors, so that the
walk ends just when the chain does. A cycle asks only finitely often besides, and comes to its end
if its walks do.
-/

namespace FabricGauges

open Script (Effect)

variable {α β : Type}

namespace Manager

variable {m : Manager} {h : List Request}

/-- A run that has ended is longer than one that waits. -/
theorem Answers.length_lt {s : Script α} {cs cs' : List Call} {es es' : List Effect} {a : α}
    {request : Request} {resume : Except ApiError request.Answer → Script α}
    (hcs : m.Answers h cs) (hcs' : m.Answers h cs') (hs : s.Reaches cs es (.asking request resume))
    (hs' : s.Reaches cs' es' (.done a)) : cs.length < cs'.length := by
  -- in step with each other, the runs get the same answers until the first one waits
  induction cs generalizing s h cs' es es' with
  | nil =>
    cases cs' with
    | nil => cases (hs.unique hs').2
    | cons c' cs' => exact Nat.succ_pos _
  | cons c cs ih =>
    obtain ⟨first, answer⟩ := c
    obtain ⟨next, later, hasking, hlater, -⟩ := Script.reaches_cons.1 hs
    cases cs' with
    | nil =>
      rw [← (Script.reaches_nil.1 hs').2] at hasking
      cases hasking
    | cons c' cs' =>
      obtain ⟨first', answer'⟩ := c'
      obtain ⟨next', later', hasking', hlater', -⟩ := Script.reaches_cons.1 hs'
      rw [hasking] at hasking'
      obtain ⟨rfl, hnext⟩ := Script.Suspension.asking.inj hasking'
      obtain rfl := eq_of_heq hnext
      obtain rfl : answer = answer' := hcs.1.trans hcs'.1.symm
      exact Nat.succ_lt_succ (ih hcs.2 hcs'.2 hlater hlater')

/-! ## Walks through fixed pages -/

/-- A page of a listing depends on its cursor only, not on what has been asked for before. -/
def Lists (m : Manager) (l : Listing)
    (pages : Option String → Except ApiError (Page l.Item)) : Prop :=
  ∀ h cursor, m h (.page l cursor) = pages cursor

section

variable {l : Listing} {pages : Option String → Except ApiError (Page l.Item)}
  (keep : l.Item → Bool) (resume : Except ApiError (List l.Item) → Script α)

/-- A walk goes on if its page hands out a cursor. -/
theorem afterPage_of_some {w : Walk l.Item} {answer : Except ApiError (Page l.Item)} {next : String}
    (hnext : nextCursor? answer = some next) : ∃ w' : Walk l.Item, w'.cursor = some next ∧
      Script.afterPage l keep w resume answer = .walk l keep w' resume := by
  cases answer with
  | error e => cases hnext
  | ok page =>
    have hcursor : (w.advance keep page).cursor = some next := hnext
    refine ⟨w.advance keep page, hcursor, ?_⟩
    simp only [Script.afterPage, Walk.take_eq, hcursor, Option.isSome_some, if_true]

/-- A walk hands its results over if its page hands out no cursor. -/
theorem afterPage_of_none {w : Walk l.Item} {answer : Except ApiError (Page l.Item)}
    (hnext : nextCursor? answer = none) : ∃ effects results,
      (Script.afterPage l keep w resume answer).settle =
        (effects ++ (resume results).settle.1, (resume results).settle.2) := by
  cases answer with
  | error e => exact ⟨[], .error e, rfl⟩
  | ok page =>
    have hcursor : (w.advance keep page).cursor = none := hnext
    refine ⟨[.log (.pagesWalked (w.advance keep page).pages (w.advance keep page).kept.length)],
      .ok (w.advance keep page).kept, ?_⟩
    simp only [Script.afterPage, Walk.take_eq, hcursor, Option.isSome_none, if_neg Bool.false_ne_true]
    rfl

/-- While the chain goes on, so does the walk. -/
theorem exists_reaches_asking (hpages : m.Lists l pages) (n : Nat) {w : Walk l.Item}
    (hchain : ∀ k < n, chain? pages w.cursor k ≠ none) :
    ∃ cs es cursor next, cs.length = n ∧ m.Answers h cs ∧
      (Script.walk l keep w resume).Reaches cs es (.asking (.page l cursor) next) := by
  induction n generalizing h w with
  | zero => exact ⟨[], [], w.cursor, _, rfl, trivial, .here _⟩
  | succ n ih =>
    obtain ⟨first, hfirst⟩ := Option.ne_none_iff_exists'.1 (hchain 0 (Nat.succ_pos n))
    obtain ⟨w', hcursor, hafter⟩ := afterPage_of_some keep resume (w := w) hfirst
    have hlater : ∀ k < n, chain? pages w'.cursor k ≠ none := by
      intro k hk hnone
      refine hchain (k + 1) (Nat.succ_lt_succ hk) ?_
      rw [chain?, show nextCursor? (pages w.cursor) = some first from hfirst, Option.bind_some,
        ← hcursor]
      exact hnone
    obtain ⟨cs, es, cursor, next, rfl, hanswers, hreaches⟩ :=
      ih (h := h ++ [.page l w.cursor]) hlater
    rw [← hafter] at hreaches
    exact ⟨⟨.page l w.cursor, pages w.cursor⟩ :: cs, es, cursor, next, rfl,
      ⟨(hpages h w.cursor).symm, hanswers⟩, .onward (s := .walk l keep w resume) rfl _ hreaches⟩

/-- When the chain ends, so does the walk. -/
theorem exists_reaches_resume (hpages : m.Lists l pages) {n : Nat} {w : Walk l.Item}
    (hchain : chain? pages w.cursor n = none) (hresume : ∀ results, ∃ a, resume results = .done a) :
    ∃ cs es a, cs.length ≤ n + 1 ∧ m.Answers h cs ∧
      (Script.walk l keep w resume).Reaches cs es (.done a) := by
  -- on the length of the chain, over every walk that has come to its cursor
  induction n generalizing h w with
  | zero =>
    obtain ⟨effects, results, hafter⟩ :=
      afterPage_of_none keep resume (w := w) hchain
    obtain ⟨a, ha⟩ := hresume results
    rw [ha] at hafter
    refine ⟨[⟨.page l w.cursor, pages w.cursor⟩], effects, a, Nat.le_refl 1,
      ⟨(hpages h w.cursor).symm, trivial⟩,
      .onward (s := .walk l keep w resume) rfl _ (Script.reaches_nil.2 ?_)⟩
    rw [hafter]
    exact ⟨(List.append_nil effects).symm, rfl⟩
  | succ n ih =>
    rw [chain?] at hchain
    cases hfirst : nextCursor? (pages w.cursor) with
    | none =>
      have hearlier : chain? pages w.cursor n = none := by
        cases n with
        | zero => exact hfirst
        | succ n => rw [chain?, hfirst, Option.bind_none]
      obtain ⟨cs, es, a, hlength, hanswers, hreaches⟩ := ih (h := h) hearlier
      exact ⟨cs, es, a, by omega, hanswers, hreaches⟩
    | some first =>
      rw [hfirst, Option.bind_some] at hchain
      obtain ⟨w', hcursor, hafter⟩ :=
        afterPage_of_some keep resume (w := w) hfirst
      rw [← hcursor] at hchain
      obtain ⟨cs, es, a, hlength, hanswers, hreaches⟩ := ih (h := h ++ [.page l w.cursor]) hchain
      rw [← hafter] at hreaches
      exact ⟨⟨.page l w.cursor, pages w.cursor⟩ :: cs, es, a, Nat.succ_le_succ hlength,
        ⟨(hpages h w.cursor).symm, hanswers⟩, .onward (s := .walk l keep w resume) rfl _ hreaches⟩

variable {keep}

/-- A walk comes to its end just when the chain of its cursors does. -/
theorem returns_walk_iff (hpages : m.Lists l pages) :
    (∃ r, m.Returns h (Fetch.walk l keep) r) ↔ ∃ n, chain? pages none n = none := by
  constructor
  · intro hreturns
    obtain ⟨r, cs, es, hruns, hanswers⟩ := hreturns
    by_contra hnever
    -- a walk that always goes on waits after as many calls as well
    obtain ⟨cs', es', cursor, next, hlength, hanswers', hreaches⟩ :=
      exists_reaches_asking (h := h) (w := .start) keep
        (fun results => .done (results.mapError ScrapeError.api)) hpages cs.length
        fun k _ hnone => hnever ⟨k, hnone⟩
    have hlt := hanswers'.length_lt hanswers hreaches hruns
    omega
  · intro hends
    obtain ⟨n, hn⟩ := hends
    obtain ⟨cs, es, r, -, hanswers, hreaches⟩ := exists_reaches_resume (h := h) (w := .start) keep
      _ hpages hn fun results => ⟨results.mapError ScrapeError.api, rfl⟩
    exact ⟨r, cs, es, hreaches, hanswers⟩

/-- A walk asks for one page more than its chain has cursors, at most. -/
theorem length_le_of_runs_walk (hpages : m.Lists l pages) {n : Nat}
    (hn : chain? pages none n = none) {cs : List Call} {es : List Effect}
    {r : Except ScrapeError (List l.Item)} (hruns : (Fetch.walk l keep).Runs cs es r)
    (hanswers : m.Answers h cs) : cs.length ≤ n + 1 := by
  obtain ⟨cs', es', r', hlength, hanswers', hreaches⟩ := exists_reaches_resume (h := h) (w := .start)
    keep _ hpages hn fun results => ⟨results.mapError ScrapeError.api, rfl⟩
  rw [hanswers.unique hanswers' hruns hreaches]
  exact hlength

end

/-! ## Scripts that finish -/

/-- The script comes to its end, whatever has been asked for before. -/
def Finishes (m : Manager) (f : Fetch α) : Prop := ∀ h, ∃ r, m.Returns h f r

theorem Finishes.bind {f : Fetch α} {g : α → Fetch β} (hf : m.Finishes f)
    (hg : ∀ a, m.Finishes (g a)) : m.Finishes (f >>= g) := by
  intro h
  obtain ⟨r, cs, es, hruns, hanswers⟩ := hf h
  cases r with
  | error e => exact ⟨.error e, cs, es, Fetch.runs_bind.2 (.inl ⟨e, rfl, hruns⟩), hanswers⟩
  | ok a =>
    obtain ⟨r, cs', es', hruns', hanswers'⟩ := hg a (h ++ cs.map (·.request))
    exact ⟨r, cs ++ cs', es ++ es',
      Fetch.runs_bind.2 (.inr ⟨cs, cs', es, es', a, rfl, rfl, hruns, hruns'⟩),
      answers_append.2 ⟨hanswers, hanswers'⟩⟩

/-- A script that walks no listing finishes. -/
theorem finishes_of_confined {f : Fetch α} {Q : Stage → Prop}
    (hf : f.Confined (fun r => r.isPage = false) Q) : m.Finishes f := by
  intro h
  obtain ⟨cs, es, r, hreaches, hanswers⟩ := exists_reaches_done m h hf
  exact ⟨r, cs, es, hreaches, hanswers⟩

end Manager

/-! ## Cycles that finish -/

namespace Cycle

open Fetch

/-- The stages without a listing ask for no page. -/
theorem confined_cluster_nodes :
    Confined (fun r => r.isPage = false) (fun _ => True) (cluster >>= nodes) := by
  refine .bind ?_ fun ids => ?_
  · exact .bind (confined_ask rfl) fun _ => .bind (confined_log _) fun _ =>
      .bind (confined_publish trivial) fun _ => confined_pure _
  · refine .bind (confined_mapM (fun id => (confined_node id).no_page) ids) fun records =>
      .bind (confined_forM_log _) fun _ => .bind (confined_publish trivial) fun _ => ?_
    split
    · exact confined_ofExcept (.error _)
    · exact confined_pure ()

/-- A cycle finishes if its walks do. -/
theorem finishes_cycle {m : Manager} {filters : Filters}
    (hwalks : ∀ l : Listing, m.Finishes (walk l (l.accepts filters))) :
    m.Finishes (cycle filters) := by
  have hbalancers : m.Finishes (balancers filters) := by
    refine (hwalks .balancers).bind fun listed => Manager.finishes_of_confined
      (Q := fun _ => True) (.bind (confined_log _) fun _ => .bind ?_ fun records =>
        confined_publish trivial)
    exact confined_mapM (fun b : Balancer => (confined_balancer _ b.id).no_page) listed
  have hgateways : ∀ kind, m.Finishes (gateways filters kind) := by
    intro kind
    refine (hwalks (.gateways kind)).bind fun listed => Manager.finishes_of_confined
      (Q := fun _ => True) (.bind (confined_log _) fun _ => .bind ?_ fun records =>
        .bind (confined_forM_log _) fun _ => confined_publish trivial)
    exact confined_mapM (fun g : Gateway => (confined_gateway kind g).no_page) listed
  have hall : cycle filters = (cluster >>= nodes) >>= fun _ => balancers filters >>= fun _ =>
      gateways filters .tier1 >>= fun _ => gateways filters .tier0 := (bind_assoc _ _ _).symm
  rw [hall]
  exact (Manager.finishes_of_confined confined_cluster_nodes).bind fun _ =>
    hbalancers.bind fun _ => (hgateways .tier1).bind fun _ => hgateways .tier0

/-- Against a manager whose listings answer each cursor with a fixed page and hand out finitely many
cursors, a walk returns just when no cursor comes back in its chain, and then after one page more
than there are cursors at most; otherwise it asks on for ever. If no cursor comes back in any
listing, every cycle comes to its end and tells how it went. -/
theorem walk_returns_iff_no_cursor_returns {m : Manager}
    {pages : (l : Listing) → Option String → Except ApiError (Page l.Item)} {handed : List String}
    (hpages : ∀ l, m.Lists l (pages l))
    (hhanded : ∀ l cursor next, nextCursor? (pages l cursor) = some next → next ∈ handed) :
    (∀ (l : Listing) (keep : l.Item → Bool) (h : List Request),
      ((∃ r, m.Returns h (walk l keep) r) ↔ ¬Returning (pages l)) ∧
      (∀ cs es r, Runs (walk l keep) cs es r → m.Answers h cs → cs.length ≤ handed.length + 1) ∧
      (Returning (pages l) → ∀ n, ∃ cs es cursor next, cs.length = n ∧ m.Answers h cs ∧
        Script.Reaches (walk l keep).run cs es (.asking (.page l cursor) next))) ∧
    ((∀ l, ¬Returning (pages l)) → ∀ filters h b took, ∃ cs outcome b', m.Answers h cs ∧
      Recorded filters b cs outcome took b' ∧
        (outcome = .ok () ∧ b'.scrapeError = .zero ∨
          ∃ e, outcome = .error e ∧ b'.scrapeError = .one)) := by
  -- a walk returns just when its chain of cursors ends, and with finitely many cursors it ends
  -- unless one comes back
  have hwalk : ∀ (l : Listing) (keep : l.Item → Bool) (h : List Request),
      (∃ r, m.Returns h (walk l keep) r) ↔ ¬Returning (pages l) := by
    intro l keep h
    rw [Manager.returns_walk_iff (hpages l)]
    constructor
    · intro hends hreturning
      obtain ⟨n, hn⟩ := hends
      exact hreturning.chain?_ne_none n hn
    · intro hnot
      obtain ⟨n, -, hn⟩ := exists_chain?_eq_none (hhanded l) hnot
      exact ⟨n, hn⟩
  refine ⟨fun l keep h => ⟨hwalk l keep h, ?_, ?_⟩, ?_⟩
  · intro cs es r hruns hanswers
    have hnot := (hwalk l keep h).1 ⟨r, cs, es, hruns, hanswers⟩
    obtain ⟨n, hle, hn⟩ := exists_chain?_eq_none (hhanded l) hnot
    have hlength := Manager.length_le_of_runs_walk (hpages l) hn hruns hanswers
    omega
  · intro hreturning n
    exact Manager.exists_reaches_asking keep _ (hpages l) n fun k _ => hreturning.chain?_ne_none k
  -- every stage returns once its listing does, so the script of the cycle comes to its end
  · intro hnot filters h b took
    obtain ⟨outcome, cs, es, hruns, hanswers⟩ :=
      finishes_cycle (fun l h => (hwalk l (l.accepts filters) h).2 (hnot l)) h
    refine ⟨cs, outcome, _, hanswers, ⟨es, hruns, rfl⟩, ?_⟩
    cases outcome with
    | ok _ => exact .inl ⟨rfl, rfl⟩
    | error e => exact .inr ⟨e, rfl, rfl⟩

/-- Every listing has two pages. -/
theorem two_pages_are_walked :
    let pages : (l : Listing) → Option String → Except ApiError (Page l.Item) := fun _ cursor =>
      .ok ⟨[], if cursor = none then some "a" else none, none⟩
    let m : Manager := fun _ => fun
      | .clusterStatus => .ok ⟨⟨none⟩, ⟨none, [], []⟩⟩
      | .page l cursor => pages l cursor
      | _ => .error (.transport "https://m")
    (∃ r, m.Returns [] (walk .balancers fun _ => true) r) ∧
      ∃ cs outcome b', m.Answers [] cs ∧ Recorded .none .blank cs outcome ⟨1⟩ b' ∧
        (outcome = .ok () ∧ b'.scrapeError = .zero ∨
          ∃ e, outcome = .error e ∧ b'.scrapeError = .one) := by
  intro pages m
  have hnot : ∀ l, ¬Returning (pages l) := fun l hreturning => hreturning.chain?_ne_none 1 rfl
  -- "a" is the only cursor that is handed out, and nothing is behind it
  have hhanded : ∀ l cursor next, nextCursor? (pages l cursor) = some next → next ∈ ["a"] := by
    intro l cursor next hnext
    cases cursor with
    | none =>
      cases hnext
      exact List.mem_singleton_self _
    | some cursor => cases hnext
  obtain ⟨hwalks, hcycles⟩ :=
    walk_returns_iff_no_cursor_returns (m := m) (fun l h cursor => rfl) hhanded
  exact ⟨(hwalks .balancers _ []).1.2 (hnot .balancers), hcycles hnot .none [] .blank ⟨1⟩⟩

/-- The page for the cursor of a page hands out that cursor again: fixed pages and one cursor, but
no walk through them returns, and no cycle that comes to them ends. -/
theorem looping_listing_never_ends :
    let pages : (l : Listing) → Option String → Except ApiError (Page l.Item) := fun
      | .balancers, _ => .ok ⟨[], some "a", none⟩
      | .gateways _, _ => .ok ⟨[], none, none⟩
    let m : Manager := fun _ => fun
      | .clusterStatus => .ok ⟨⟨none⟩, ⟨none, [], []⟩⟩
      | .page l cursor => pages l cursor
      | _ => .error (.transport "https://m")
    (∀ l, m.Lists l (pages l)) ∧
      (∀ l cursor next, nextCursor? (pages l cursor) = some next → next ∈ ["a"]) ∧
      (∀ keep r, ¬m.Returns [] (walk .balancers keep) r) ∧
      ∀ cs es outcome, m.Answers [] cs →
        ¬Script.Reaches (cycle .none).run cs es (.done outcome) := by
  intro pages m
  have hpages : ∀ l, m.Lists l (pages l) := fun l h cursor => rfl
  have hnever : ∀ n cursor, chain? (pages .balancers) cursor n ≠ none := by
    intro n
    induction n with
    | zero => exact fun cursor hnone => by cases hnone
    | succ n ih => exact fun cursor => ih (some "a")
  refine ⟨hpages, ?_, ?_, ?_⟩
  · intro l cursor next hnext
    cases l <;> cases hnext
    exact List.mem_singleton_self _
  · intro keep r hreturns
    obtain ⟨n, hn⟩ := (Manager.returns_walk_iff (hpages .balancers)).1 ⟨r, hreturns⟩
    exact hnever n none hn
  · intro cs es outcome hanswers hreaches
    -- after the cluster, the cycle is in the walk and stays there
    let status : ClusterStatus := ⟨⟨none⟩, ⟨none, [], []⟩⟩
    obtain ⟨first, hfirst⟩ : ∃ first, (cycle .none).run.settle.2 = .asking .clusterStatus first :=
      ⟨_, rfl⟩
    obtain ⟨resume, effects, hwalk⟩ : ∃ resume effects, (first (.ok status)).settle = (effects,
        (Script.walk .balancers (Listing.balancers.accepts .none) .start resume).settle.2) := by
      cases hfirst
      exact ⟨_, _, rfl⟩
    obtain ⟨cs', es', cursor, next, hlength, hanswers', hreaches'⟩ :=
      Manager.exists_reaches_asking (h := [.clusterStatus]) (w := .start)
        (Listing.balancers.accepts .none) resume (hpages .balancers) cs.length fun k _ =>
          hnever k none
    have hlater := hreaches'.after effects (hwalk.trans (by rw [Script.settle, List.append_nil]))
    have hall : m.Answers [] (⟨.clusterStatus, .ok status⟩ :: cs') := ⟨rfl, hanswers'⟩
    have hlt := hall.length_lt hanswers (.onward hfirst _ hlater) hreaches
    rw [List.length_cons, hlength] at hlt
    omega

end Cycle

end FabricGauges
