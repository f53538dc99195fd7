import FabricGauges.Client.Basic
import FabricGauges.Launch.Arguments
import FabricGauges.Log.Event
import FabricGauges.Scraper.Basic
import FabricGauges.Settings.Load

/-!
# Launching

The exporter is launched with the settings of a file, which have to be valid. The arguments take
precedence over the file, and what comes of that has to be valid, too. Then the client is made, and
with it the exporter is ready to scrape and to serve.
-/

namespace FabricGauges

/-- Why the exporter was not launched. -/
inductive LaunchFault where
  | load (fault : LoadFault)
  | client (fault : ClientFault)
deriving DecidableEq, Repr

namespace LaunchFault

/-- The message of a fault. -/
def message : LaunchFault → String
  | load fault => fault.message
  | client fault => fault.message

/-- What a fault goes back to. -/
def cause? : LaunchFault → Option String
  | load fault => fault.cause?
  | client fault => fault.cause?

/-- The lines that report a fault. -/
def report (f : LaunchFault) : List String :=
  ("Error: " ++ f.message) ::
    match f.cause? with
    | none => []
    | some cause => ["", "Caused by:", "    " ++ cause]

end LaunchFault

namespace Settings

/-- The settings with what the arguments say instead. -/
def override (s : Settings) (a : Arguments) : Settings :=
  { s with
    scrape := { s.scrape with listen := a.listen.getD s.scrape.listen }
    log := { s.log with level := a.logLevel.getD s.log.level } }

/-- The settings that the exporter runs with. -/
def effective (files : Files) (a : Arguments) : Except LoadFault Settings := do
  let settings := (← load files a.configPath).override a
  settings.check.mapError .invalid
  return settings

/-- The scraper of some settings. -/
def scraper (s : Settings) : Scraper :=
  ⟨s.filters, .ofSeconds s.interval, .ofSeconds s.errorInterval⟩

end Settings

/-- An exporter that is ready to run. -/
structure Launch where
  settings : Settings
  client : Client
  address : SocketAddress

namespace Launch

/-- Readies an exporter for settings that are valid. -/
def ofSettings (files : Files) (s : Settings) : Except LaunchFault Launch := do
  let client ← (Client.make files s.connection).mapError .client
  let address ← s.address.mapError fun cause => .load (.invalid cause)
  return ⟨s, client, address⟩

/-- What is logged before the client is made. -/
def begun (s : Settings) : Event := .exporterStarted s.connection.url

end Launch

/-- What the statistics come to when the exporter stops. -/
def ScrapeStats.summary (s : ScrapeStats) : Event :=
  .finalStatistics s.cycles s.successes s.failures (s.lastDuration.map (·.milliseconds))
    s.lastError

/-- Why the exporter is told to stop. -/
inductive StopSignal where
  | terminate
  | interrupt
deriving DecidableEq, Repr

/-- What is logged when a signal arrives. -/
def StopSignal.event : StopSignal → Event
  | terminate => .terminated
  | interrupt => .interrupted

end FabricGauges
