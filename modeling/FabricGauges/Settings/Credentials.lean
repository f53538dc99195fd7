import FabricGauges.Settings.Connection
import FabricGauges.Url.Basic

/-!
# Valid connection settings

Settings are valid if they name a URL of the manager, leave time for a request and for its
repetitions, and give exactly one way to log in. What is checked first is reported.
-/

namespace FabricGauges

/-- How the exporter proves who it is. -/
inductive Credentials where
  | password (user password : String)
  /-- The files of a certificate and of its key. -/
  | certificate (path keyPath : String)
deriving DecidableEq, Repr

/-- Why settings of the connection are not valid. -/
inductive ConnectionFault where
  | noUrl
  | malformedUrl (url : String) (fault : UrlFault)
  | foreignScheme (url : String)
  | zeroTimeout
  | crossedDelays
  | loneUser
  | loneCertificate
  | twoCredentials
  | noCredentials
deriving DecidableEq, Repr

/-- The message of a fault. -/
def ConnectionFault.message : ConnectionFault → String
  | noUrl => "nsxt.url is required"
  | malformedUrl url fault => s!"Invalid nsxt.url {url}: {fault.message}"
  | foreignScheme url => s!"nsxt.url must be http or https: {url}"
  | zeroTimeout => "timeout_secs must be > 0"
  | crossedDelays => "retry_min_delay_ms must not exceed retry_max_delay_ms"
  | loneUser => "username and password must be set together"
  | loneCertificate => "client_cert_path and client_key_path must be set together"
  | twoCredentials => "configure either username/password or a client certificate, not both"
  | noCredentials =>
    "no authentication configured (username/password or client certificate)"

namespace Connection

/-- Two settings that only make sense together. -/
def pair {α : Type} (fault : ConnectionFault) (make : String → String → α) :
    Option String → Option String → Except ConnectionFault (Option α)
  | some a, some b => .ok (some (make a b))
  | none, none => .ok none
  | _, _ => .error fault

/-- The credentials that the settings give. -/
def credentials (c : Connection) : Except ConnectionFault Credentials := do
  let password ← pair .loneUser .password c.username c.password
  let certificate ← pair .loneCertificate .certificate c.certificatePath c.keyPath
  match password, certificate with
  | some credentials, none | none, some credentials => .ok credentials
  | some _, some _ => .error .twoCredentials
  | none, none => .error .noCredentials

/-- The URL that the settings give. -/
def manager (c : Connection) : Except ConnectionFault Url :=
  if c.url.isEmpty then .error .noUrl
  else match Url.ofText c.url with
    | .ok url => .ok url
    | .error .foreignScheme => .error (.foreignScheme c.url)
    | .error fault => .error (.malformedUrl c.url fault)

/-- Checks the settings. -/
def check (c : Connection) : Except ConnectionFault Unit := do
  let _ ← c.manager
  if c.timeoutSecs = 0 then .error .zeroTimeout
  if c.maxDelayMs < c.minDelayMs then .error .crossedDelays
  let _ ← c.credentials

end Connection

end FabricGauges
