import FabricGauges.Certificate.Expiry
import FabricGauges.Certificate.Section
import FabricGauges.Client.Retry
import FabricGauges.Settings.Credentials
import FabricGauges.Settings.File

/-!
# The client of the manager

A client is made from valid settings and the files that they name: further certificates to trust,
and, if there is no password, the certificate and the key to log in with. The first thing that is
wrong with them is reported.
-/

namespace FabricGauges

/-- Why no client could be made. -/
inductive ClientFault where
  | settings (fault : ConnectionFault)
  | unreadable (path : String) (fault : FileFault)
  /-- The file of further certificates is malformed. -/
  | malformedTrust (path : String)
  /-- The files to log in with do not hold a certificate and a key. -/
  | malformedCertificate (path : String)
  /-- A certificate or a key cannot be used. -/
  | unusable
deriving DecidableEq, Repr

namespace ClientFault

/-- The message of a fault. -/
def message : ClientFault → String
  | settings fault => "Invalid configuration: " ++ fault.message
  | unreadable path fault => s!"Failed to read {path}: {fault.message}"
  | malformedTrust path => "Invalid configuration: Invalid CA bundle " ++ path
  | malformedCertificate path => "Invalid configuration: Invalid client certificate " ++ path
  | unusable => "Invalid configuration: Failed to build HTTP client"

/-- What a fault goes back to, where the message has it as a part. -/
def cause? : ClientFault → Option String
  | unreadable _ fault => some fault.message
  | _ => none

end ClientFault

/-- What is needed to send requests to the manager. -/
structure Client where
  /-- What the URL of every request begins with. -/
  baseUrl : String
  /-- The user and the password that go with every request. -/
  password : Option (String × String)
  policy : RetryPolicy
deriving DecidableEq, Repr

namespace Client

/-- A certificate and a key to log in with. -/
structure Identity where
  certificate : List UInt8
  key : List UInt8

/-- The identity in a file: its first certificate and its last key. Nothing but certificates and
private keys may be there. -/
def identity? (file : ByteArray) : Option Identity := do
  let sections ← Section.readAll? file
  if !sections.all fun s => s.kind = .certificate ∨ s.kind.isPrivateKey then none
  let certificate ← sections.find? (·.kind = .certificate)
  let key ← (sections.filter (·.kind.isPrivateKey)).getLast?
  return ⟨certificate.content, key.content⟩

/-- Whether bytes are a certificate. -/
def isCertificate (content : List UInt8) : Bool := (Certificate.notAfter? content).isSome

/-- The certificates of a file of further ones; there may be none. -/
def trusted (files : Files) (path : String) : Except ClientFault (List (List UInt8)) := do
  let file ← (files path).mapError (.unreadable path)
  match Section.readAll? file with
  | none => .error (.malformedTrust path)
  | some sections => .ok ((sections.filter (·.kind = .certificate)).map (·.content))

/-- The identity in the files of a certificate and of its key. -/
def identity (files : Files) (path keyPath : String) : Except ClientFault Identity := do
  let certificate ← (files path).mapError (.unreadable path)
  let key ← (files keyPath).mapError (.unreadable keyPath)
  match identity? (certificate ++ "\n".toUTF8 ++ key) with
  | none => .error (.malformedCertificate path)
  | some identity => .ok identity

/-- A text without the slashes at its end. -/
def withoutSlashes (url : String) : String :=
  String.ofList (Text.dropEndWhile (· = '/') url.toList)

/-- The client of some settings. -/
def make (files : Files) (c : Connection) : Except ClientFault Client := do
  c.check.mapError .settings
  -- the trusted certificates are read before the credentials are looked at
  let trust ← match c.caPath with
    | none => .ok []
    | some path => trusted files path
  let credentials ← c.credentials.mapError .settings
  let login ← match credentials with
    | .password _ _ => .ok none
    | .certificate path keyPath => some <$> identity files path keyPath
  -- that files hold sections says nothing yet about their content
  let usable := trust.all isCertificate &&
    match login with
    | none => true
    | some i => isCertificate i.certificate && (Der.sequence? i.key).isSome
  if !usable then .error .unusable
  return {
    baseUrl := withoutSlashes c.url
    password := match credentials with
      | .password user password => some (user, password)
      | .certificate _ _ => none
    policy := .ofConnection c }

/-- The header that logs in with a password. -/
def authorization (c : Client) : Option String :=
  c.password.map fun (user, password) =>
    "Basic " ++ String.ofList (Text.Base64.encode (Text.utf8 (user ++ ":" ++ password).toList))

end Client

end FabricGauges
