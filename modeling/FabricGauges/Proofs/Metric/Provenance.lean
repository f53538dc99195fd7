import FabricGauges.Cycle.Basic
import FabricGauges.Proofs.Json.Path
import FabricGauges.Proofs.Metric.Texts

/-!
# Where the series of a family come from

A family has a series for each part of the fabric that it is about: a node, a file system, a pool
member. The manager's documents about such a part are put side by side as one entry. The provenance
of a family says where in an entry its labels and its value are found, by the names that the
documents have for them.
-/

namespace FabricGauges

open Document (toJson)

/-! ## Sources -/

/-- How a label is written. -/
inductive LabelForm where
  | text
  /-- The last segment of a path. -/
  | segment
  /-- The digits of an integer. -/
  | digits
deriving DecidableEq, Repr

/-- What stands in for a label that is not given. -/
inductive Substitute where
  | word (word : String)
  /-- Another text of the entry. -/
  | other (path : List String)
deriving DecidableEq, Repr

/-- Where a label comes from. -/
structure LabelSource where
  name : String
  form : LabelForm
  path : List String
  substitute : Option Substitute
deriving DecidableEq, Repr

/-- Where a value comes from. -/
inductive ValueSource where
  /-- One, for what is there. -/
  | presence
  /-- One for yes, zero otherwise. -/
  | flag (path : List String)
  /-- One for the expected text, zero for any other and for none. -/
  | expected (path : List String) (text : String)
  /-- The length of a list. -/
  | count (path : List String)
  | number (path : List String)
  /-- One of exactly three numbers. -/
  | ofThree (place : Fin 3) (path : List String)
deriving DecidableEq, Repr

/-- A label as it is written. -/
def LabelForm.read? : LabelForm → Json → Option String
  | text, json => json.text?
  | segment, json => json.text?.map lastSegment
  | digits, json => json.integer?.map toString

/-- A substitute as it is written. -/
def Substitute.read? : Substitute → Json → Option String
  | word text, _ => some text
  | other path, entry => (entry.at? path).bind Json.text?

namespace LabelSource

/-- The label that an entry gives. -/
def given? (s : LabelSource) (entry : Json) : Option String :=
  (entry.at? s.path).bind s.form.read?

/-- The label that an entry gives, or what stands in for it. -/
def read? (s : LabelSource) (entry : Json) : Option String :=
  (s.given? entry).or (s.substitute.bind fun substitute => substitute.read? entry)

/-- The labels that an entry gives, if it gives all of them. -/
def readAll? (entry : Json) : List LabelSource → Option (List String)
  | [] => some []
  | s :: sources => do
    let label ← s.read? entry
    let labels ← readAll? entry sources
    return label :: labels

theorem exists_readAll? {entry : Json} {sources : List LabelSource}
    (h : ∀ s ∈ sources, ∃ label, s.read? entry = some label) :
    ∃ labels, readAll? entry sources = some labels := by
  induction sources with
  | nil => exact ⟨[], rfl⟩
  | cons s sources ih =>
    obtain ⟨label, hlabel⟩ := h s List.mem_cons_self
    obtain ⟨labels, hlabels⟩ := ih fun s hs => h s (List.mem_cons_of_mem _ hs)
    refine ⟨label :: labels, ?_⟩
    rw [readAll?, hlabel, hlabels]
    rfl

/-- Labels read from more sources are those of the first sources and then those of the others. -/
theorem readAll?_append {entry : Json} {sources : List LabelSource} {labels : List String}
    (h : readAll? entry sources = some labels) (more : List LabelSource) :
    readAll? entry (sources ++ more) = (readAll? entry more).map (labels ++ ·) := by
  induction sources generalizing labels with
  | nil =>
    obtain rfl := Option.some.inj h
    simp
  | cons s sources ih =>
    obtain ⟨label, hlabel, h⟩ := Option.bind_eq_some_iff.1 h
    obtain ⟨rest, hrest, h⟩ := Option.bind_eq_some_iff.1 h
    obtain rfl := Option.some.inj h
    rw [List.cons_append, readAll?, hlabel, ih hrest]
    cases readAll? entry more <;> rfl

/-- The labels are what the sources give, one for one. -/
theorem readAll?_eq_some_iff {entry : Json} {sources : List LabelSource} {labels : List String} :
    readAll? entry sources = some labels ↔
      (sources.map fun s => s.read? entry) = labels.map some := by
  induction sources generalizing labels with
  | nil =>
    cases labels with
    | nil => exact iff_of_true rfl rfl
    | cons label labels => exact iff_of_false nofun nofun
  | cons s sources ih =>
    have hcons : readAll? entry (s :: sources) =
        (s.read? entry).bind fun label => (readAll? entry sources).map (label :: ·) := by
      rw [readAll?]
      cases s.read? entry <;> cases readAll? entry sources <;> rfl
    rw [hcons, Option.bind_eq_some_iff]
    simp only [Option.map_eq_some_iff, ih]
    cases labels with
    | nil => simp
    | cons label labels => simp [and_comm]

end LabelSource

/-- The value that an entry gives. -/
def ValueSource.read? : ValueSource → Json → Option Double
  | presence, _ => some .one
  | flag path, entry => some (flagValue ((entry.at? path).bind Json.bool?))
  | expected path text, entry => some (statusValue ((entry.at? path).bind Json.text?) text)
  | count path, entry => ((entry.at? path).bind Json.items?).map fun items => .ofNat items.length
  | number path, entry => (entry.at? path).bind Json.double?
  | ofThree place path, entry => do
    let items ← (entry.at? path).bind Json.items?
    if items.length = 3 then items[place]?.bind Json.double? else none

/-- Where the number stands that a source is. -/
def ValueSource.field? : ValueSource → Option (List String)
  | number path | ofThree _ path => some path
  | presence | flag _ | expected _ _ | count _ => none

/-- The value of a field depends on the entry through that field alone. -/
theorem ValueSource.read?_congr {source : ValueSource} {path : List String} {entry entry' : Json}
    (h : source.field? = some path) (hentry : entry.at? path = entry'.at? path) :
    source.read? entry = source.read? entry' := by
  cases source with
  | number _ | ofThree _ _ =>
    obtain rfl := Option.some.inj h
    simp only [read?, hentry]
  | _ => cases h

/-! ## Families -/

/-- The parts of the fabric that have series of their own. -/
inductive Part where
  | cluster
  | node
  | fileSystem
  | interface
  | balancer
  | virtualServer
  | pool
  | member
  | gateway
  | edge
deriving DecidableEq, Repr

namespace LabelSource

/-- A text that has no substitute. -/
def plain (name : String) (path : List String) : LabelSource := ⟨name, .text, path, none⟩

/-- A text that is empty if it is not given. -/
def orEmpty (name : String) (path : List String) : LabelSource :=
  ⟨name, .text, path, some (.word "")⟩

/-- The identifier of a resource. -/
def id (name : String) : LabelSource := plain name ["config", "id"]

/-- The name of a resource, which is its identifier if it has no display name. -/
def displayName : LabelSource :=
  ⟨"name", .text, ["config", "display_name"], some (.other ["config", "id"])⟩

/-- A status, which may be unknown. -/
def status (path : List String) : LabelSource := ⟨"status", .text, path, some (.word unknownStatus)⟩

/-- What an alarm says. -/
def alarm : List LabelSource :=
  [plain "error_id" ["status", "alarm", "error_id"], plain "message" ["status", "alarm", "message"]]

end LabelSource

open LabelSource (plain orEmpty displayName alarm)

/-- The labels that identify a node. -/
def nodeIdentity : List LabelSource :=
  [.id "uuid", orEmpty "ip" ["config", "appliance_mgmt_listen_addr"], displayName]

/-- The labels that identify a load balancer, or something that belongs to it. -/
def namedIdentity : List LabelSource := [displayName, .id "id"]

/-- The labels that identify a part. -/
def Part.identity : Part → List LabelSource
  | cluster => []
  | node => nodeIdentity
  | fileSystem =>
    nodeIdentity ++
      [orEmpty "type" ["file_system", "type"], orEmpty "mount" ["file_system", "mount"]]
  | interface => nodeIdentity ++ [plain "dev" ["interface", "interface_id"]]
  | balancer | virtualServer | pool => namedIdentity
  | member =>
    namedIdentity ++ [orEmpty "ip" ["status", "ip_address"], orEmpty "port" ["status", "port"]]
  | gateway | edge => [.id "id", displayName]

/-- The part that a family is about, the labels that it has besides those that identify the part,
and its value. -/
structure Provenance where
  part : Part
  extra : List LabelSource
  value : ValueSource
deriving DecidableEq, Repr

/-- The name of a counter of an interface in its document. -/
def InterfaceMetric.key : InterfaceMetric → String
  | rxByte => "rx_bytes"
  | rxDropped => "rx_dropped"
  | rxError => "rx_errors"
  | rxFrame => "rx_frame"
  | rxPacket => "rx_packets"
  | txByte => "tx_bytes"
  | txCarrier => "tx_carrier"
  | txColl => "tx_colls"
  | txDropped => "tx_dropped"
  | txError => "tx_errors"
  | txPacket => "tx_packets"

/-- The name of a session count in the statistics of a load balancer. -/
def SessionMetric.key (layer : Layer) : SessionMetric → String
  | rate => layer.stem ++ "_current_session_rate"
  | current => layer.stem ++ "_current_sessions"
  | total => layer.stem ++ "_total_sessions"
  | max => layer.stem ++ "_max_sessions"

/-- The name of a traffic count in the statistics of what carries the traffic. -/
def TrafficMetric.key : TrafficMetric → String
  | httpRequest => "http_requests"
  | httpRequestRate => "http_request_rate"
  | inPacket => "packets_in"
  | inPacketRate => "packets_in_rate"
  | outPacket => "packets_out"
  | outPacketRate => "packets_out_rate"
  | inByte => "bytes_in"
  | inByteRate => "bytes_in_rate"
  | outByte => "bytes_out"
  | outByteRate => "bytes_out_rate"
  | session => "current_sessions"
  | sessionRate => "current_session_rate"
  | sessionTotal => "total_sessions"
  | sessionMax => "max_sessions"

/-- What carries the traffic. -/
def Carrier.part : Carrier → Part
  | virtualServer => .virtualServer
  | pool => .pool
  | member => .member

/-- Where the labels and the value of a family come from. Those of certificates are in no member of
a document, but in the text of a certificate. -/
def Metric.provenance? : Metric → Option Provenance
  | cluster .control =>
    let path := ["control_cluster_status", "status"]
    some ⟨.cluster, [.status path], .expected path stableStatus⟩
  | cluster .management =>
    let path := ["mgmt_cluster_status", "status"]
    some ⟨.cluster, [.status path], .expected path stableStatus⟩
  | interface m => some ⟨.interface, [], .number ["statistics", m.key]⟩
  | node .status =>
    some ⟨.node, [],
      .expected ["status", "mgmt_cluster_status", "mgmt_cluster_status"] connectedStatus⟩
  | node .cpu => some ⟨.node, [], .number ["status", "system_status", "cpu_cores"]⟩
  | node .fsTotal => some ⟨.fileSystem, [], .number ["file_system", "total"]⟩
  | node .fsUsed => some ⟨.fileSystem, [], .number ["file_system", "used"]⟩
  | node .load1 => some ⟨.node, [], .ofThree 0 ["status", "system_status", "load_average"]⟩
  | node .load5 => some ⟨.node, [], .ofThree 1 ["status", "system_status", "load_average"]⟩
  | node .load15 => some ⟨.node, [], .ofThree 2 ["status", "system_status", "load_average"]⟩
  | node .memTotal => some ⟨.node, [], .number ["status", "system_status", "mem_total"]⟩
  | node .memUsed => some ⟨.node, [], .number ["status", "system_status", "mem_used"]⟩
  | node .memCache => some ⟨.node, [], .number ["status", "system_status", "mem_cache"]⟩
  | node .uptime => some ⟨.node, [], .number ["status", "system_status", "uptime"]⟩
  | node .version => some ⟨.node, [plain "version" ["status", "version"]], .presence⟩
  | node .certificates => none
  | node .interface =>
    some ⟨.interface, [plain "admin" ["interface", "admin_status"],
      plain "link" ["interface", "link_status"], ⟨"mtu", .digits, ["interface", "mtu"], none⟩],
      .presence⟩
  | balancer .enable => some ⟨.balancer, [], .flag ["config", "enabled"]⟩
  | balancer .status =>
    let path := ["status", "service_status"]
    some ⟨.balancer, [.status path], .expected path upStatus⟩
  | balancer .info => some ⟨.balancer, [plain "size" ["config", "size"]], .presence⟩
  | balancer .cpu => some ⟨.balancer, [], .number ["status", "cpu_usage"]⟩
  | balancer .mem => some ⟨.balancer, [], .number ["status", "memory_usage"]⟩
  | balancer .error => some ⟨.balancer, [plain "message" ["status", "error_message"]], .presence⟩
  | balancer .alarm => some ⟨.balancer, alarm, .presence⟩
  | balancer .virtualServer => some ⟨.balancer, [], .count ["status", "virtual_servers"]⟩
  | session layer m => some ⟨.balancer, [], .number ["statistics", "statistics", m.key layer]⟩
  | virtualServer .enable => some ⟨.virtualServer, [], .flag ["config", "enabled"]⟩
  | virtualServer .status =>
    let path := ["status", "status"]
    some ⟨.virtualServer, [.status path], .expected path upStatus⟩
  | virtualServer .info =>
    some ⟨.virtualServer, [plain "ip" ["config", "ip_address"],
      ⟨"pool_id", .segment, ["config", "pool_path"], none⟩,
      ⟨"lb_id", .segment, ["config", "lb_service_path"], none⟩], .presence⟩
  | virtualServer .alarm => some ⟨.virtualServer, alarm, .presence⟩
  | virtualServer .sourceIp =>
    some ⟨.virtualServer, [],
      .number ["statistics", "statistics", "source_ip_persistence_entry_size"]⟩
  | pool .status =>
    let path := ["status", "status"]
    some ⟨.pool, [.status path], .expected path upStatus⟩
  | pool .info =>
    some ⟨.pool, [⟨"port", .digits, ["config", "member_group", "port"], none⟩,
      plain "algorithm" ["config", "algorithm"]], .presence⟩
  | pool .alarm => some ⟨.pool, alarm, .presence⟩
  | pool .member => some ⟨.pool, [], .count ["status", "members"]⟩
  | pool .memberMin => some ⟨.pool, [], .number ["config", "min_active_members"]⟩
  | member .status =>
    let path := ["status", "status"]
    some ⟨.member, [.status path], .expected path upStatus⟩
  | member .failure => some ⟨.member, [plain "cause" ["status", "failure_cause"]], .presence⟩
  | traffic carrier m => some ⟨carrier.part, [], .number ["statistics", "statistics", m.key]⟩
  | gateway _ .info => some ⟨.gateway, [plain "mode" ["config", "ha_mode"]], .presence⟩
  | gateway _ .status => some ⟨.gateway, [], .expected ["state", "state"] realizedState⟩
  | gateway _ .failure =>
    some ⟨.gateway, [⟨"code", .digits, ["state", "failure_code"], none⟩,
      plain "message" ["state", "failure_message"]], .presence⟩
  | gateway _ .transport => some ⟨.gateway, [], .count ["state", "details"]⟩
  | gateway _ .edge =>
    some ⟨.edge, [⟨"index", .segment, ["edge", "edge_path"], none⟩,
      plain "mode" ["edge", "high_availability_status"]], .presence⟩

namespace Provenance

/-- Where all labels of a series come from. -/
def labels (p : Provenance) : List LabelSource := p.part.identity ++ p.extra

/-- The labels of the series of an entry. -/
def labels? (p : Provenance) (entry : Json) : Option (List String) :=
  LabelSource.readAll? entry p.labels

/-- The sample of an entry, if it gives all labels and the value. -/
def sample? (p : Provenance) (m : Metric) (entry : Json) : Option Sample := do
  let labels ← p.labels? entry
  let value ← p.value.read? entry
  return ⟨m, labels, value⟩

/-- The labels of a series are those of the part that it is about and then its own. -/
theorem labels?_eq (p : Provenance) {entry : Json} {labels : List String}
    (h : LabelSource.readAll? entry p.part.identity = some labels) :
    p.labels? entry = (LabelSource.readAll? entry p.extra).map (labels ++ ·) :=
  LabelSource.readAll?_append h p.extra

end Provenance

/-- Every label has the name that the family has for it. -/
theorem Metric.names_provenance {m : Metric} {p : Provenance} (h : m.provenance? = some p) :
    p.labels.map (·.name) = m.family.labels := by
  have hall : ∀ m ∈ Metric.all, ∀ p ∈ m.provenance?, p.labels.map (·.name) = m.family.labels := by
    decide +kernel
  exact hall m m.mem_all p h

/-- Only the certificates have no provenance. -/
theorem Metric.provenance?_eq_none {m : Metric} :
    m.provenance? = none ↔ m = .node .certificates := by
  have hall : ∀ m ∈ Metric.all, m.provenance? = none ↔ m = .node .certificates := by decide +kernel
  exact hall m m.mem_all

end FabricGauges
