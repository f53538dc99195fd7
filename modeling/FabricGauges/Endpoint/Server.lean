import FabricGauges.Address.Socket
import FabricGauges.Endpoint.Response

/-!
# The endpoint at work

The endpoint takes its address, serves until it is told to stop or nobody is left who could tell it,
and then finishes the requests that are open. A notice that is no stop changes nothing.
-/

namespace FabricGauges

/-- Why the endpoint does not serve. -/
inductive EndpointFault where
  /-- The path of the metrics cannot be routed. -/
  | route (fault : RouteFault)
  | bind (address : SocketAddress) (reason : String)
deriving DecidableEq, Repr

/-- The reason when an address is taken. -/
def addressInUse : String := "Address already in use (os error 98)"

/-- The message of a fault. -/
def EndpointFault.message : EndpointFault → String
  | route _ => "The metrics path cannot be routed"
  | bind address reason => s!"Failed to bind to {address.text}: {reason}"

/-- What is logged about an endpoint that does not serve; a path that cannot be routed is not. -/
def EndpointFault.event? : EndpointFault → Option Event
  | route _ => none
  | fault => some (.endpointFailed fault.message)

/-- An endpoint that serves or has stopped. -/
structure Endpoint where
  routes : Routes
  isServing : Bool
  /-- Everything logged so far. -/
  logged : List Event

namespace Endpoint

/-- Starts an endpoint. The path of the metrics is looked at before the address is taken, which
fails for the given reason if there is one. -/
def start (path : String) (address : SocketAddress) (obstacle : Option String) :
    Except EndpointFault Endpoint := do
  let routes ← (Routes.make path).mapError .route
  match obstacle with
  | some reason => .error (.bind address reason)
  | none => return ⟨routes, true, [.endpointListening address.text path]⟩

/-- The endpoint after something has arrived on the shutdown channel. -/
def notice (e : Endpoint) (n : Scraper.Notice) : Endpoint :=
  if e.isServing && n.stops then
    { e with isServing := false, logged := e.logged ++ [.endpointStopping, .endpointStopped] }
  else e

end Endpoint

end FabricGauges
