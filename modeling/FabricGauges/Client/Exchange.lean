import FabricGauges.Client.Addressing
import FabricGauges.Log.Event
import FabricGauges.Manager.Error
import FabricGauges.Text.Bytes

/-!
# Exchanges

A request is sent, and what comes of it is judged: it is either sent again after a delay or the
exchange is over. A request that could not be sent and one that was throttled are sent again as long
as the policy allows; everything else ends the exchange.
-/

namespace FabricGauges

/-- What comes of sending a request once. -/
inductive Reaction where
  /-- No answer could be had. -/
  | unsent
  /-- An answer; its body is absent if it could not be read. -/
  | answered (status : Nat) (body : Option (List UInt8))
deriving DecidableEq, Repr

/-- What follows from a reaction. -/
inductive Verdict (α : Type) where
  /-- The request is sent again. -/
  | again (event : Event)
  | over (events : List Event) (result : Except ApiError α)

/-- Whether a status says that the request succeeded. -/
def isSuccess (status : Nat) : Bool := 200 ≤ status && status < 300

namespace RetryPolicy

variable {α : Type} [Document α]

/-- What follows from the reaction to a request that has been repeated some times; the delay is the
one that would come before the next repetition. -/
def judge (p : RetryPolicy) (url : String) (attempt delayMs : Nat) : Reaction → Verdict α
  | .unsent =>
    if p.allows attempt then .again (.requestRetried url (attempt + 1) delayMs)
    else .over [] (.error (.transport url))
  | .answered status body =>
    if isSuccess status then
      match body with
      | none => .over [] (.error (.transport url))
      | some body =>
        .over [.responseReceived url body.length] ((Document.ofBytes α body).mapError (.decode url))
    else if isThrottled status && p.allows attempt then
      .again (.requestThrottled url status (attempt + 1) delayMs)
    else
      let shown := String.ofList (Text.ofBytes (body.getD []))
      .over [] (.error (.status status url shown))

/-- A request is only sent again if the policy allows it. -/
theorem allows_of_judge_again {p : RetryPolicy} {url : String} {attempt delayMs : Nat}
    {r : Reaction} {event : Event} (h : p.judge url attempt delayMs r = (.again event : Verdict α)) :
    p.allows attempt = true := by
  unfold judge at h
  split at h
  · split at h
    · assumption
    · simp at h
  · split at h
    · split at h <;> simp at h
    · split at h
      · simp_all
      · simp at h

end RetryPolicy

/-- An exchange that is over. -/
structure Exchange (α : Type) where
  /-- How often the request was sent. -/
  sent : Nat
  /-- The delays between one time and the next, in milliseconds. -/
  delays : List Nat
  events : List Event
  result : Except ApiError α

namespace Exchange

variable {α : Type}

/-- The exchange that sent its request once more before, and waited. -/
def precededBy (e : Exchange α) (event : Event) (delayMs : Nat) : Exchange α :=
  ⟨e.sent + 1, delayMs :: e.delays, event :: e.events, e.result⟩

/-- Sends a request that has been repeated `attempt` times until the exchange is over. The reactions
and the random draws are those of each repetition in turn. -/
def run [Document α] (p : RetryPolicy) (url : String) (react : Nat → Reaction) (draw : Nat → Nat)
    (attempt : Nat) : Exchange α :=
  match h : p.judge url attempt (p.delayMs (draw attempt)) (react attempt) with
  | .over events result => ⟨1, [], events, result⟩
  | .again event =>
    (run p url react draw (attempt + 1)).precededBy event (p.delayMs (draw attempt))
termination_by p.maxRetries - attempt
decreasing_by
  have := RetryPolicy.allows_of_judge_again h
  simp only [RetryPolicy.allows, decide_eq_true_eq] at this
  omega

end Exchange

/-- What comes of sending the repetitions of requests in turn. -/
abbrev Network := Url → Nat → Reaction

namespace Client

/-- The exchange of a request over a network. A request whose URL is none cannot be sent. -/
def exchange (c : Client) (network : Network) (draw : Nat → Nat) (r : Request) :
    Exchange r.Answer :=
  let react (attempt : Nat) : Reaction :=
    match c.location r with
    | .ok url => network url attempt
    | .error _ => .unsent
  Exchange.run c.policy (c.url r) react draw 0

end Client

end FabricGauges
