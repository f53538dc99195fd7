import FabricGauges.Document.Basic

/-!
# Connection settings

Where the manager is and how to talk to it. Credentials are either a user name and a password or a
client certificate with its key, each given as a pair and never both.
-/

namespace FabricGauges

open Document (member ofVal toVal)

/-- The settings of the connection to the manager. -/
structure Connection where
  url : String
  username : Option String
  password : Option String
  /-- The file of the client certificate. -/
  certificatePath : Option String
  /-- The file of the key that goes with the client certificate. -/
  keyPath : Option String
  /-- The file of further certificates to trust. -/
  caPath : Option String
  /-- Whether any certificate of the manager is accepted. -/
  skipVerification : Bool
  /-- How often a request is repeated. -/
  maxRetries : UInt32
  /-- How long a request may take. -/
  timeoutSecs : UInt64
  /-- The least delay before a request is repeated. -/
  minDelayMs : UInt64
  /-- The greatest delay before a request is repeated. -/
  maxDelayMs : UInt64
deriving DecidableEq

namespace Connection

instance : Document Connection where
  shape := .record "NsxtConfig" <|
    member String (.optional "url") <|
    member (Option String) (.optional "username") <|
    member (Option String) (.optional "password") <|
    member (Option String) (.optional "client_cert_path") <|
    member (Option String) (.optional "client_key_path") <|
    member (Option String) (.optional "ca_cert_path") <|
    member Bool (.optional "skip_ssl_verify") <|
    member UInt32 ⟨"max_retries", [], .count 3, false⟩ <|
    member UInt64 ⟨"timeout_secs", [], .count 30, false⟩ <|
    member UInt64 ⟨"retry_min_delay_ms", [], .count 500, false⟩ <|
    member UInt64 ⟨"retry_max_delay_ms", [], .count 5000, false⟩ .nil
  ofVal := fun (a, b, c, d, e, f, g, h, i, j, k, ()) =>
    ⟨ofVal a, ofVal b, ofVal c, ofVal d, ofVal e, ofVal f, ofVal g, ofVal h, ofVal i, ofVal j,
      ofVal k⟩
  toVal x := (toVal x.url, toVal x.username, toVal x.password, toVal x.certificatePath,
    toVal x.keyPath, toVal x.caPath, toVal x.skipVerification, toVal x.maxRetries,
    toVal x.timeoutSecs, toVal x.minDelayMs, toVal x.maxDelayMs, ())
  toVal_ofVal := fun (a, b, c, d, e, f, g, h, i, j, k, ()) => by simp; rfl
  ofVal_toVal x := by simp

/-- The settings of a file that gives none. -/
def blank : Connection := ofVal (Shape.blank (Document.shape Connection))

end Connection

end FabricGauges
