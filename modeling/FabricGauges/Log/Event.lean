import FabricGauges.Json.Basic

/-!
# Log events

Everything that is logged, with its level, its message and its fields. Levels are ordered by how
much they say; an event is written if its level is within the one that is configured.
-/

namespace FabricGauges

/-- The levels, the most severe first. -/
inductive LogLevel where
  | error
  | warn
  | info
  | debug
  | trace
deriving DecidableEq, Repr

namespace LogLevel

/-- How a level is written. -/
def name : LogLevel → String
  | error => "ERROR"
  | warn => "WARN"
  | info => "INFO"
  | debug => "DEBUG"
  | trace => "TRACE"

/-- The place of a level, the most severe being first. -/
def rank : LogLevel → Nat
  | error => 1
  | warn => 2
  | info => 3
  | debug => 4
  | trace => 5

/-- Whether an event of a level is written at a configured level. -/
def isWithin (level configured : LogLevel) : Bool := level.rank ≤ configured.rank

/-- The level of a place. -/
def ofRank? : Nat → Option LogLevel
  | 1 => some error
  | 2 => some warn
  | 3 => some info
  | 4 => some debug
  | 5 => some trace
  | _ => none

/-- A number below 2^64 in decimal digits, perhaps after a plus sign. -/
def number? (text : List Char) : Option Nat :=
  let digits := match text with
    | '+' :: rest => rest
    | digits => digits
  if digits.isEmpty ∨ !digits.all Char.isDigit then none
  else
    let n := digits.foldl (fun n c => n * 10 + (c.toNat - '0'.toNat)) 0
    if n < UInt64.size then some n else none

/-- The level that a text names, by its name in any case or by its place. -/
def ofText? (text : String) : Option LogLevel :=
  match number? text.toList with
  | some n => ofRank? n
  | none =>
    [error, warn, info, debug, trace].find? fun level =>
      level.name.toList == text.toList.map Char.toUpper

/-- The level that a text configures; one that names none means `info`. -/
def configured (text : String) : LogLevel := (ofText? text).getD info

end LogLevel

/-- Something that is logged. -/
inductive Event where
  /-- A request could not be sent and is about to be repeated. -/
  | requestRetried (url : String) (attempt : Nat) (delayMs : Nat)
  | responseReceived (url : String) (bytes : Nat)
  | requestThrottled (url : String) (status : Nat) (attempt : Nat) (delayMs : Nat)
  | pagesWalked (pages : Nat) (results : Nat)
  | clusterFetched (nodes : Nat)
  | nodeFetched (node : String) (interfaces : Nat)
  | balancersListed (balancers : Nat)
  | virtualServerFiltered (balancer : String) (virtualServer : String)
  | balancerFetched (balancer : String) (virtualServers : Nat) (pools : Nat)
  | gatewaysListed (kind : String) (gateways : Nat)
  | gatewayStateFetched (kind : String) (gateway : String)
  | gatewayWithoutState (kind : String) (gateway : String)
  | invalidCertificate (node : String) (listener : String) (error : String)
  | cycleCompleted (durationMs : Nat) (cycle : Nat)
  | cycleFailed (error : String) (cycle : Nat)
  | scraperStarted (intervalSecs : Nat) (errorIntervalSecs : Nat)
  | scraperStopped
  | endpointListening (address : String) (path : String)
  | endpointStopping
  | endpointStopped
  | endpointFailed (error : String)
  | exporterStarted (url : String)
  | terminated
  | interrupted
  | finalStatistics (cycles successes failures : Nat) (lastDurationMs : Option Nat)
    (lastError : Option String)
  | exporterStopped
deriving DecidableEq, Repr

namespace Event

/-- The level of an event. -/
def level : Event → LogLevel
  | requestRetried .. | requestThrottled .. | gatewayWithoutState .. | invalidCertificate .. => .warn
  | responseReceived .. | clusterFetched .. | nodeFetched .. | balancersListed ..
  | virtualServerFiltered .. | balancerFetched .. | gatewaysListed .. | gatewayStateFetched .. =>
    .debug
  | pagesWalked .. => .trace
  | cycleFailed .. | endpointFailed .. => .error
  | cycleCompleted .. | scraperStarted .. | scraperStopped | endpointListening ..
  | endpointStopping | endpointStopped | exporterStarted .. | terminated | interrupted
  | finalStatistics .. | exporterStopped => .info

/-- The message of an event. -/
def message : Event → String
  | requestRetried .. => "NSX-T request failed, retrying"
  | responseReceived .. => "NSX-T response"
  | requestThrottled .. => "NSX-T request throttled, retrying"
  | pagesWalked .. => "Walked paginated list"
  | clusterFetched .. => "Fetched cluster status"
  | nodeFetched .. => "Fetched node"
  | balancersListed .. => "Listed load balancers"
  | virtualServerFiltered .. => "Virtual server filtered out"
  | balancerFetched .. => "Fetched load balancer"
  | gatewaysListed .. => "Listed gateways"
  | gatewayStateFetched .. => "Fetched gateway state"
  | gatewayWithoutState .. => "Gateway state without realization state"
  | invalidCertificate .. => "Invalid listener certificate"
  | cycleCompleted .. => "Scrape cycle completed"
  | cycleFailed .. => "Scrape cycle failed"
  | scraperStarted .. => "Starting scraper"
  | scraperStopped => "Scraper stopped"
  | endpointListening .. => "HTTP server listening"
  | endpointStopping => "HTTP server shutting down"
  | endpointStopped => "HTTP server stopped"
  | endpointFailed error => "HTTP server error: " ++ error
  | exporterStarted .. => "Starting NSX-T exporter"
  | terminated => "Received SIGTERM, shutting down..."
  | interrupted => "Received Ctrl+C, shutting down..."
  | finalStatistics .. => "Final statistics"
  | exporterStopped => "Exporter stopped"

/-- The fields of an event; what is absent is left out. -/
def fields : Event → List (String × Json)
  | requestRetried url attempt delayMs =>
    [("url", .text url), ("attempt", .ofNat attempt), ("delay_ms", .ofNat delayMs),
      ("error", .text "the request could not be sent")]
  | responseReceived url bytes => [("url", .text url), ("bytes", .ofNat bytes)]
  | requestThrottled url status attempt delayMs =>
    [("url", .text url), ("status", .ofNat status), ("attempt", .ofNat attempt),
      ("delay_ms", .ofNat delayMs)]
  | pagesWalked pages results => [("pages", .ofNat pages), ("results", .ofNat results)]
  | clusterFetched nodes => [("nodes", .ofNat nodes)]
  | nodeFetched node interfaces => [("node", .text node), ("interfaces", .ofNat interfaces)]
  | balancersListed balancers => [("load_balancers", .ofNat balancers)]
  | virtualServerFiltered balancer virtualServer =>
    [("lb", .text balancer), ("virtual_server", .text virtualServer)]
  | balancerFetched balancer virtualServers pools =>
    [("lb", .text balancer), ("virtual_servers", .ofNat virtualServers), ("pools", .ofNat pools)]
  | gatewaysListed kind gateways => [("kind", .text kind), ("gateways", .ofNat gateways)]
  | gatewayStateFetched kind gateway | gatewayWithoutState kind gateway =>
    [("kind", .text kind), ("gateway", .text gateway)]
  | invalidCertificate node listener error =>
    [("node", .text node), ("listener", .text listener), ("error", .text error)]
  | cycleCompleted durationMs cycle =>
    [("duration_ms", .ofNat durationMs), ("cycle", .ofNat cycle)]
  | cycleFailed error cycle => [("error", .text error), ("cycle", .ofNat cycle)]
  | scraperStarted intervalSecs errorIntervalSecs =>
    [("interval_secs", .ofNat intervalSecs), ("error_interval_secs", .ofNat errorIntervalSecs)]
  | endpointListening address path => [("addr", .text address), ("path", .text path)]
  | exporterStarted url => [("url", .text url)]
  | finalStatistics cycles successes failures lastDurationMs lastError =>
    [("cycles", .ofNat cycles), ("successes", .ofNat successes), ("failures", .ofNat failures)] ++
      (lastDurationMs.map fun ms => ("last_duration_ms", Json.ofNat ms)).toList ++
      (lastError.map fun error => ("last_error", Json.text error)).toList
  | scraperStopped | endpointStopping | endpointStopped | endpointFailed _ | terminated
  | interrupted | exporterStopped => []

end Event

end FabricGauges
