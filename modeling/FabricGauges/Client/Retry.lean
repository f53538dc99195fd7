import FabricGauges.Settings.Connection

/-!
# Repeating requests

A request that could not be sent, or that the manager throttled, is repeated after a delay, up to a
number of times. The delay is drawn anew each time.
-/

namespace FabricGauges

/-- How often, and after which delay, a request is repeated. -/
structure RetryPolicy where
  maxRetries : Nat
  minDelayMs : Nat
  maxDelayMs : Nat
deriving DecidableEq, Repr

namespace RetryPolicy

/-- The policy of the settings. -/
def ofConnection (c : Connection) : RetryPolicy :=
  ⟨c.maxRetries.toNat, c.minDelayMs.toNat, c.maxDelayMs.toNat⟩

/-- The policy of settings that give none. -/
def blank : RetryPolicy := ofConnection .blank

/-- Whether a status says that the manager throttles: too many requests, or unavailable. -/
def isThrottled (status : Nat) : Bool := status == 429 || status == 503

/-- Whether a request may be sent again after `attempt` repetitions. -/
def allows (p : RetryPolicy) (attempt : Nat) : Bool := attempt < p.maxRetries

/-- Whether there is a choice of delays. -/
def hasRange (p : RetryPolicy) : Bool := p.minDelayMs < p.maxDelayMs

/-- The delay that a random draw picks: below the greatest one, and the least one when there is no
choice. -/
def delayMs (p : RetryPolicy) (draw : Nat) : Nat :=
  if p.hasRange then p.minDelayMs + draw % (p.maxDelayMs - p.minDelayMs) else p.minDelayMs

end RetryPolicy

end FabricGauges
