import FabricGauges.Certificate.Chain
import FabricGauges.Manager.Error

/-!
# Errors of a cycle

What ends a scrape cycle: a request that failed, documents that do not fit together, or a node with
a broken chain of certificates.
-/

namespace FabricGauges

/-- Why a cycle failed. -/
inductive ScrapeError where
  | api (error : ApiError)
  /-- One result was expected and none was there. -/
  | notFound (kind : String) (id : String)
  /-- One result was expected and several were there. -/
  | tooManyResults (kind : String) (id : String) (count : Nat)
  /-- A status has no statistics that go with it. -/
  | unresolved (kind : String) (key : String) (balancer : String)
  /-- A status does not say what it is the status of. -/
  | missingKey (kind : String) (balancer : String)
  | certificate (broken : BrokenChain)
deriving DecidableEq, Repr

/-- The message of an error. -/
def ScrapeError.message : ScrapeError → String
  | api error => error.message
  | notFound kind id => s!"No {kind} found for {id}"
  | tooManyResults kind id count => s!"Too many {kind} results for {id}: {count}"
  | unresolved kind key balancer => s!"Unable to find {kind} {key} for load balancer {balancer}"
  | missingKey kind balancer => s!"{kind} without identifying key on load balancer {balancer}"
  | certificate broken => broken.message

end FabricGauges
