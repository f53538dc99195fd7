import FabricGauges.Document.Fault

/-!
# Errors of a request

A request fails because no answer could be had, because the answer has a status that is no success,
or because its body is not the document that was asked for.
-/

namespace FabricGauges

/-- Why a request to the manager gave no document. -/
inductive ApiError where
  /-- The request could not be sent, or the body of the answer could not be read. -/
  | transport (url : String)
  | status (code : Nat) (url : String) (body : String)
  | decode (url : String) (fault : Fault)
deriving DecidableEq, Repr

namespace ApiError

/-- The message of an error. -/
def message : ApiError → String
  | transport url => s!"Request to {url} failed"
  | status code url body => s!"Request to {url} returned HTTP {code}: {body}"
  | decode url fault => s!"Failed to decode response from {url}: {fault.message}"

/-- The status of the answer, if there was one and it is what the request failed with. -/
def status? : ApiError → Option Nat
  | status code _ _ => some code
  | _ => none

end ApiError

end FabricGauges
