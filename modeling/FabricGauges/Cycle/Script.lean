import FabricGauges.Cycle.Error
import FabricGauges.Listing.Walk
import FabricGauges.Log.Event
import FabricGauges.Manager.Request
import FabricGauges.Metric.Sample

/-!
# Scripts

A script is what a cycle does, as data: it asks the manager and goes on with the answer, logs, and
publishes the samples of a stage. Nothing in it can wait or be interrupted except where it asks, so
a cycle that is given up has done exactly what precedes the request that is open.

A listing may have any number of pages, so its walk is one node of a script and carries its own
progress: an answer either moves the walk on or hands the results over.
-/

namespace FabricGauges

/-- What is to be done, and the result in the end. -/
inductive Script (α : Type) where
  | done (result : α)
  | ask (request : Request) (resume : Except ApiError request.Answer → Script α)
  | walk (listing : Listing) (keep : listing.Item → Bool) (progress : Walk listing.Item)
      (resume : Except ApiError (List listing.Item) → Script α)
  | log (event : Event) (rest : Script α)
  /-- The families of the stage are cleared and hold these samples instead. -/
  | publish (stage : Stage) (samples : List Sample) (rest : Script α)

namespace Script

variable {α β : Type}

/-- One script after another. -/
def bind : Script α → (α → Script β) → Script β
  | done a, f => f a
  | ask r resume, f => ask r fun answer => (resume answer).bind f
  | walk l keep progress resume, f => walk l keep progress fun results => (resume results).bind f
  | log e rest, f => log e (rest.bind f)
  | publish stage samples rest, f => publish stage samples (rest.bind f)

instance : Monad Script where
  pure := done
  bind := bind

theorem bind_done (s : Script α) : s.bind done = s := by
  induction s with
  | done a => rfl
  | ask r resume ih => simp only [bind, ih]
  | walk l keep progress resume ih => simp only [bind, ih]
  | log e rest ih => simp only [bind, ih]
  | publish stage samples rest ih => simp only [bind, ih]

theorem bind_assoc {γ : Type} (s : Script α) (f : α → Script β) (g : β → Script γ) :
    (s.bind f).bind g = s.bind fun a => (f a).bind g := by
  induction s with
  | done a => rfl
  | ask r resume ih => simp only [bind, ih]
  | walk l keep progress resume ih => simp only [bind, ih]
  | log e rest ih => simp only [bind, ih]
  | publish stage samples rest ih => simp only [bind, ih]

instance : LawfulMonad Script :=
  LawfulMonad.mk' Script
    bind_done
    (fun _ _ => rfl)
    bind_assoc

/-! ## Running as far as the next request -/

/-- What a script does besides asking. -/
inductive Effect where
  | log (event : Event)
  | publish (stage : Stage) (samples : List Sample)

/-- Where a script waits. -/
inductive Suspension (α : Type) where
  | done (result : α)
  | asking (request : Request) (resume : Except ApiError request.Answer → Script α)

/-- A walk after the answer to its request. -/
def afterPage (l : Listing) (keep : l.Item → Bool) (progress : Walk l.Item)
    (resume : Except ApiError (List l.Item) → Script α) :
    Except ApiError (Page l.Item) → Script α
  | .error error => resume (.error error)
  | .ok page =>
    match progress.take keep page with
    | .more progress => walk l keep progress resume
    | .finished w => log (.pagesWalked w.pages w.kept.length) (resume (.ok w.kept))

/-- What a script does before it waits, and where it waits. -/
def settle : Script α → List Effect × Suspension α
  | done a => ([], .done a)
  | ask r resume => ([], .asking r resume)
  | walk l keep progress resume =>
    ([], .asking (.page l progress.cursor) (afterPage l keep progress resume))
  | log e rest => let (effects, s) := rest.settle; (.log e :: effects, s)
  | publish stage samples rest =>
    let (effects, s) := rest.settle; (.publish stage samples :: effects, s)

end Script

/-! ## Scripts that can fail -/

/-- A script that ends with a result or with the error of the cycle. -/
abbrev Fetch (α : Type) := ExceptT ScrapeError Script α

namespace Fetch

/-- Asks the manager; an error of the request is an error of the cycle. -/
def ask (r : Request) : Fetch r.Answer :=
  ExceptT.mk <| Script.ask r fun answer => .done (answer.mapError .api)

/-- Walks a listing and gives the accepted results. -/
def walk (l : Listing) (keep : l.Item → Bool) : Fetch (List l.Item) :=
  ExceptT.mk <| Script.walk l keep .start fun results => .done (results.mapError .api)

/-- Logs an event. -/
def log (e : Event) : Fetch Unit := ExceptT.mk <| Script.log e (.done (.ok ()))

/-- Replaces the samples of a stage. -/
def publish (stage : Stage) (samples : List Sample) : Fetch Unit :=
  ExceptT.mk <| Script.publish stage samples (.done (.ok ()))

/-- Ends the cycle with an error. -/
def fail {α : Type} (e : ScrapeError) : Fetch α := ExceptT.mk <| Script.done (.error e)

/-- The value, or the error of its absence. -/
def require {α : Type} (e : ScrapeError) : Option α → Fetch α
  | some a => pure a
  | none => fail e

end Fetch

end FabricGauges
