import FabricGauges.Address.Socket
import FabricGauges.Filter
import FabricGauges.Settings.Credentials

/-!
# Settings

The settings of the exporter: the connection to the manager, the scrape loop and the endpoint, the
allow-lists, and logging. Settings are valid if the connection is, the intervals are positive, the
endpoint has an address and an absolute path, and the metrics have a namespace.
-/

namespace FabricGauges

open Document (member ofVal toVal)

/-! ## The scrape loop and the endpoint -/

/-- The settings of the scrape loop and of the endpoint. -/
structure ScrapeSettings where
  /-- The pause after a successful cycle. -/
  intervalSecs : UInt64
  /-- The pause after a failed cycle. -/
  errorIntervalSecs : UInt64
  /-- The address of the endpoint, as it is written. -/
  listen : String
  /-- The path of the metrics. -/
  path : String
  /-- What the name of every metric begins with. -/
  space : String
deriving DecidableEq

instance : Document ScrapeSettings where
  shape := .record "ScrapeConfig" <|
    member UInt64 ⟨"interval_secs", [], .count 60, false⟩ <|
    member UInt64 ⟨"error_interval_secs", [], .count 30, false⟩ <|
    member String ⟨"listen", [], .text "0.0.0.0:8080", false⟩ <|
    member String ⟨"path", [], .text "/metrics", false⟩ <|
    member String ⟨"namespace", [], .text "nsxt", false⟩ .nil
  ofVal := fun (a, b, c, d, e, ()) => ⟨ofVal a, ofVal b, ofVal c, ofVal d, ofVal e⟩
  toVal x := (toVal x.intervalSecs, toVal x.errorIntervalSecs, toVal x.listen, toVal x.path,
    toVal x.space, ())
  toVal_ofVal := fun (a, b, c, d, e, ()) => by simp; rfl
  ofVal_toVal x := by simp

/-! ## Logging -/

/-- How log events are written. -/
inductive LogFormat where
  | text
  | json
deriving DecidableEq, Repr

instance : Document LogFormat where
  shape := .choice "text" ["json"]
  ofVal := fun (i : Fin 2) => if i = 0 then .text else .json
  toVal
    | .text => (0 : Fin 2)
    | .json => (1 : Fin 2)
  toVal_ofVal := by
    have h : ∀ i : Fin 2, (match (if i = 0 then LogFormat.text else .json) with
        | .text => (0 : Fin 2)
        | .json => 1) = i := by decide
    exact h
  ofVal_toVal f := by cases f <;> rfl

/-- The settings of logging. -/
structure LogSettings where
  /-- The level, as it is written. -/
  level : String
  format : LogFormat
deriving DecidableEq

instance : Document LogSettings where
  shape := .record "LoggingConfig" <|
    member String ⟨"level", [], .text "info", false⟩ <|
    member LogFormat (.optional "format") .nil
  ofVal := fun (a, b, ()) => ⟨ofVal a, ofVal b⟩
  toVal x := (toVal x.level, toVal x.format, ())
  toVal_ofVal := fun (a, b, ()) => by simp; rfl
  ofVal_toVal x := by simp

/-! ## All settings -/

/-- The settings of the exporter. -/
structure Settings where
  connection : Connection
  scrape : ScrapeSettings
  filters : Filters
  log : LogSettings
deriving DecidableEq

instance : Document Settings where
  shape := .record "ExporterConfig" <|
    member Connection (.optional "nsxt") <|
    member ScrapeSettings (.optional "exporter") <|
    member Filters (.optional "filters") <|
    member LogSettings (.optional "logging") .nil
  ofVal := fun (a, b, c, d, ()) => ⟨ofVal a, ofVal b, ofVal c, ofVal d⟩
  toVal x := (toVal x.connection, toVal x.scrape, toVal x.filters, toVal x.log, ())
  toVal_ofVal := fun (a, b, c, d, ()) => by simp; rfl
  ofVal_toVal x := by simp

/-! ## Validity -/

/-- Why settings are not valid. -/
inductive Invalidity where
  | connection (fault : ConnectionFault)
  | zeroInterval
  | zeroErrorInterval
  | listenAddress (text : String)
  | relativePath
  | noNamespace
deriving DecidableEq, Repr

/-- The message of an invalidity. -/
def Invalidity.message : Invalidity → String
  | connection fault => "Invalid configuration: " ++ fault.message
  | zeroInterval => "interval_secs must be > 0"
  | zeroErrorInterval => "error_interval_secs must be > 0"
  | listenAddress text => "Invalid listen address: " ++ text
  | relativePath => "Metrics path must start with /"
  | noNamespace => "namespace must not be empty"

namespace Settings

/-- The address of the endpoint. -/
def address (s : Settings) : Except Invalidity SocketAddress :=
  match SocketAddress.ofText? s.scrape.listen with
  | some address => .ok address
  | none => .error (.listenAddress s.scrape.listen)

/-- Checks the settings. -/
def check (s : Settings) : Except Invalidity Unit := do
  s.connection.check.mapError .connection
  if s.scrape.intervalSecs = 0 then .error .zeroInterval
  if s.scrape.errorIntervalSecs = 0 then .error .zeroErrorInterval
  let _ ← s.address
  if s.scrape.path.toList.head? ≠ some '/' then .error .relativePath
  if s.scrape.space.isEmpty then .error .noNamespace

/-- The pause after a successful cycle, in seconds. -/
def interval (s : Settings) : Nat := s.scrape.intervalSecs.toNat

/-- The pause after a failed cycle, in seconds. -/
def errorInterval (s : Settings) : Nat := s.scrape.errorIntervalSecs.toNat

end Settings

end FabricGauges
