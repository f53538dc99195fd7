import FabricGauges.Proofs.Checks
import FabricGauges.Settings.Basic
import Mathlib.Logic.Basic

/-!
# Valid settings

The check of settings goes through them one by one and ends with the first that is wrong. Settings
that pass are described here as a structure, so that what follows from a check need not open it.
-/

namespace FabricGauges

/-- What makes settings of the connection valid. -/
structure Connection.Valid (c : Connection) : Prop where
  url : c.url ≠ "" ∧ ∃ u, Url.ofText c.url = .ok u
  timeout : c.timeoutSecs ≠ 0
  delays : c.minDelayMs ≤ c.maxDelayMs
  user : c.username.isSome = c.password.isSome
  certificate : c.certificatePath.isSome = c.keyPath.isSome
  /-- There is one way to log in, and no other. -/
  login : c.username.isSome ≠ c.certificatePath.isSome

/-- What makes settings valid. -/
structure Settings.Valid (s : Settings) : Prop where
  connection : s.connection.Valid
  interval : s.scrape.intervalSecs ≠ 0
  errorInterval : s.scrape.errorIntervalSecs ≠ 0
  listen : ∃ address, SocketAddress.ofText? s.scrape.listen = some address
  path : s.scrape.path.toList.head? = some '/'
  space : s.scrape.space ≠ ""

namespace Connection

/-- The manager has an address if the URL is there and can be read. -/
theorem manager_eq_ok_iff {c : Connection} {u : Url} :
    c.manager = .ok u ↔ c.url ≠ "" ∧ Url.ofText c.url = .ok u := by
  unfold manager
  by_cases hurl : c.url = ""
  · simp [hurl]
  · have hempty : c.url.isEmpty = false := by simpa using hurl
    rw [hempty]
    cases hread : Url.ofText c.url with
    | ok found => simp [hurl]
    | error fault => cases fault <;> simp [hurl]

/-- Credentials are a user and a password, or a certificate and a key, and never both or neither. -/
theorem exists_credentials_iff {c : Connection} :
    (∃ found, c.credentials = .ok found) ↔
      c.username.isSome = c.password.isSome ∧ c.certificatePath.isSome = c.keyPath.isSome ∧
        c.username.isSome ≠ c.certificatePath.isSome := by
  unfold credentials
  rcases c.username with _ | user <;> rcases c.password with _ | password <;>
    rcases c.certificatePath with _ | path <;> rcases c.keyPath with _ | keyPath <;>
    simp [pair, bind, Except.bind]

/-- The check of a connection passes exactly the valid ones. -/
theorem check_eq_ok_iff {c : Connection} : c.check = .ok () ↔ c.Valid := by
  have hcheck : c.check = .ok () ↔ (∃ u, c.manager = .ok u) ∧ c.timeoutSecs ≠ 0 ∧
      ¬c.maxDelayMs < c.minDelayMs ∧ ∃ found, c.credentials = .ok found := by
    simp only [check, bind_eq_ok, check_bind_eq_ok, exists_and_right, pure, Except.pure, and_true,
      ne_eq]
  rw [hcheck, exists_credentials_iff]
  simp only [manager_eq_ok_iff, exists_and_left, UInt64.not_lt]
  constructor
  · rintro ⟨hurl, htimeout, hdelays, huser, hcertificate, hlogin⟩
    exact ⟨hurl, htimeout, hdelays, huser, hcertificate, hlogin⟩
  · intro h
    exact ⟨h.url, h.timeout, h.delays, h.user, h.certificate, h.login⟩

end Connection

namespace Settings

theorem address_eq_ok_iff {s : Settings} {address : SocketAddress} :
    s.address = .ok address ↔ SocketAddress.ofText? s.scrape.listen = some address := by
  unfold Settings.address
  cases SocketAddress.ofText? s.scrape.listen with
  | none => simp
  | some found => simp

/-- The check of the settings passes exactly the valid ones. -/
theorem check_eq_ok_iff {s : Settings} : s.check = .ok () ↔ s.Valid := by
  have hspace : (if s.scrape.space.isEmpty then Except.error Invalidity.noNamespace else .ok ()) =
      .ok () ↔ s.scrape.space ≠ "" := by
    by_cases hempty : s.scrape.space = ""
    · simp [hempty]
    · simp [hempty]
  simp only [check, bind_eq_ok, check_bind_eq_ok, address_eq_ok_iff, mapError_eq_ok,
    not_not, exists_and_right, pure, Except.pure, hspace]
  constructor
  · rintro ⟨⟨_, hvalid⟩, hinterval, herror, hlisten, hpath, hnamed⟩
    exact ⟨Connection.check_eq_ok_iff.1 hvalid, hinterval, herror, hlisten, hpath, hnamed⟩
  · intro h
    have hconnection := Connection.check_eq_ok_iff.2 h.connection
    exact ⟨⟨(), hconnection⟩, h.interval, h.errorInterval, h.listen, h.path, h.space⟩

end Settings

end FabricGauges
