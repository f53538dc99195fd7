import FabricGauges.Endpoint.Server
import FabricGauges.Http.Message
import FabricGauges.Launch.Basic
import FabricGauges.Log.Line

/-!
# The exporter at work

An exporter that has been launched scrapes and serves side by side. An endpoint that cannot serve
does not keep it from scraping. What arrives on the shutdown channel reaches both, and when they
have stopped the statistics are logged.
-/

namespace FabricGauges

/-- An exporter at work. -/
structure Exporter where
  /-- The client that asks the manager. -/
  client : Client
  scraper : Scraper
  task : Scraper.Task
  endpoint : Except EndpointFault Endpoint
  /-- What the name of every metric begins with. -/
  space : String
  logger : Logger

namespace Exporter

/-- Starts an exporter; its address cannot be had for the given reason, if there is one. -/
def start (l : Launch) (obstacle : Option String) : Exporter where
  client := l.client
  scraper := l.settings.scraper
  task := l.settings.scraper.start .blank
  endpoint := Endpoint.start l.settings.scrape.path l.address obstacle
  space := l.settings.scrape.space
  logger := l.settings.logger

/-- The exporter after something has happened to it. Only what arrives on the shutdown channel
matters to the endpoint. -/
def react (e : Exporter) (x : Scraper.Stimulus) : Exporter :=
  { e with
    task := e.scraper.react e.task x
    endpoint := match x with
      | .notice n => e.endpoint.map (·.notice n)
      | _ => e.endpoint }

/-- The exporter after something has arrived on the shutdown channel, which reaches both its
parts. -/
def notice (e : Exporter) (n : Scraper.Notice) : Exporter := e.react (.notice n)

/-- The answer to the bytes of a request; there is none from an endpoint that does not serve. -/
def answer? (e : Exporter) (request : List UInt8) : Option Response :=
  match e.endpoint with
  | .ok endpoint =>
    if endpoint.isServing then some (Http.answer endpoint.routes e.space e.task.state request)
    else none
  | .error _ => none

/-- Everything that both parts have logged so far. -/
def logged (e : Exporter) : List Event :=
  e.task.logged ++
    match e.endpoint with
    | .ok endpoint => endpoint.logged
    | .error fault => fault.event?.toList

/-- Everything that an exporter has logged when it is over after a signal. -/
def loggedUntil (e : Exporter) (signal : StopSignal) : List Event :=
  let stopped := e.notice (.value true)
  signal.event :: stopped.logged ++ [stopped.task.state.stats.summary, .exporterStopped]

end Exporter

end FabricGauges
