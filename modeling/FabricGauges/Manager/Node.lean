import FabricGauges.Document.Basic

/-!
# Node documents

A management node: its listeners with their certificates, its use of processor, memory and file
systems, and its network interfaces with their counters.
-/

namespace FabricGauges

open Document (member ofVal toVal)

/-- An address a node listens on. -/
structure Listener where
  /-- The chain of certificates that the listener presents. -/
  certificate : Option String
  address : Option String
  port : Option Int64

instance : Document Listener where
  shape := .record "ServiceEndpoint" <|
    member (Option String) (.optional "certificate") <|
    member (Option String) (.optional "ip_address") <|
    member (Option Int64) (.optional "port") .nil
  ofVal := fun (a, b, c, ()) => ⟨ofVal a, ofVal b, ofVal c⟩
  toVal x := (toVal x.certificate, toVal x.address, toVal x.port, ())
  toVal_ofVal := fun (a, b, c, ()) => by simp; rfl
  ofVal_toVal x := by simp

/-- The listeners of a node that is a manager. -/
structure ManagerRole where
  api : Option Listener
  cluster : Option Listener
  plane : Option Listener

instance : Document ManagerRole where
  shape := .record "ManagerRole" <|
    member (Option Listener) (.optional "api_listen_addr") <|
    member (Option Listener) (.optional "mgmt_cluster_listen_addr") <|
    member (Option Listener) (.optional "mgmt_plane_listen_addr") .nil
  ofVal := fun (a, b, c, ()) => ⟨ofVal a, ofVal b, ofVal c⟩
  toVal x := (toVal x.api, toVal x.cluster, toVal x.plane, ())
  toVal_ofVal := fun (a, b, c, ()) => by simp; rfl
  ofVal_toVal x := by simp

/-- How a node is set up. -/
structure NodeConfig where
  id : String
  displayName : Option String
  listenAddress : Option String
  managerRole : Option ManagerRole

instance : Document NodeConfig where
  shape := .record "ClusterNodeConfig" <|
    member String (.required "id") <|
    member (Option String) (.optional "display_name") <|
    member (Option String) (.optional "appliance_mgmt_listen_addr") <|
    member (Option ManagerRole) (.optional "manager_role") .nil
  ofVal := fun (a, b, c, d, ()) => ⟨ofVal a, ofVal b, ofVal c, ofVal d⟩
  toVal x := (toVal x.id, toVal x.displayName, toVal x.listenAddress, toVal x.managerRole, ())
  toVal_ofVal := fun (a, b, c, d, ()) => by simp; rfl
  ofVal_toVal x := by simp

/-- Where a node stands in the management cluster. -/
structure NodeMembership where
  status : Option String

instance : Document NodeMembership where
  shape := .record "NodeManagementClusterStatus" <|
    member (Option String) (.optional "mgmt_cluster_status") .nil
  ofVal := fun (a, ()) => ⟨ofVal a⟩
  toVal x := (toVal x.status, ())
  toVal_ofVal := fun (a, ()) => by simp; rfl
  ofVal_toVal x := by simp

/-- A file system and how much of it is in use. -/
structure FileSystem where
  device : Option String
  mount : Option String
  kind : Option String
  total : Option Int64
  used : Option Int64

instance : Document FileSystem where
  shape := .record "FileSystemUsage" <|
    member (Option String) (.optional "file_system") <|
    member (Option String) (.optional "mount") <|
    member (Option String) (.optional "type") <|
    member (Option Int64) (.optional "total") <|
    member (Option Int64) (.optional "used") .nil
  ofVal := fun (a, b, c, d, e, ()) => ⟨ofVal a, ofVal b, ofVal c, ofVal d, ofVal e⟩
  toVal x := (toVal x.device, toVal x.mount, toVal x.kind, toVal x.total, toVal x.used, ())
  toVal_ofVal := fun (a, b, c, d, e, ()) => by simp; rfl
  ofVal_toVal x := by simp

/-- What a node uses of its resources. -/
structure SystemUsage where
  cpuCores : Option Int64
  fileSystems : List FileSystem
  /-- The load over 1, 5 and 15 minutes. -/
  loadAverage : List Double
  memoryCache : Option Int64
  memoryTotal : Option Int64
  memoryUsed : Option Int64
  /-- Milliseconds since the node booted. -/
  uptime : Option Int64

instance : Document SystemUsage where
  shape := .record "NodeSystemStatus" <|
    member (Option Int64) (.optional "cpu_cores") <|
    member (List FileSystem) (.optional "file_systems") <|
    member (List Double) (.optional "load_average") <|
    member (Option Int64) (.optional "mem_cache") <|
    member (Option Int64) (.optional "mem_total") <|
    member (Option Int64) (.optional "mem_used") <|
    member (Option Int64) (.optional "uptime") .nil
  ofVal := fun (a, b, c, d, e, f, g, ()) =>
    ⟨ofVal a, ofVal b, ofVal c, ofVal d, ofVal e, ofVal f, ofVal g⟩
  toVal x := (toVal x.cpuCores, toVal x.fileSystems, toVal x.loadAverage, toVal x.memoryCache,
    toVal x.memoryTotal, toVal x.memoryUsed, toVal x.uptime, ())
  toVal_ofVal := fun (a, b, c, d, e, f, g, ()) => by simp; rfl
  ofVal_toVal x := by simp

/-- The state of a node. -/
structure NodeStatus where
  membership : Option NodeMembership
  system : Option SystemUsage
  version : Option String

instance : Document NodeStatus where
  shape := .record "ClusterNodeStatus" <|
    member (Option NodeMembership) (.optional "mgmt_cluster_status") <|
    member (Option SystemUsage) (.optional "system_status") <|
    member (Option String) (.optional "version") .nil
  ofVal := fun (a, b, c, ()) => ⟨ofVal a, ofVal b, ofVal c⟩
  toVal x := (toVal x.membership, toVal x.system, toVal x.version, ())
  toVal_ofVal := fun (a, b, c, ()) => by simp; rfl
  ofVal_toVal x := by simp

/-- A network interface of a node. -/
structure Interface where
  id : String
  adminStatus : Option String
  linkStatus : Option String
  mtu : Option Int64

instance : Document Interface where
  shape := .record "NodeInterfaceProperties" <|
    member String (.required "interface_id") <|
    member (Option String) (.optional "admin_status") <|
    member (Option String) (.optional "link_status") <|
    member (Option Int64) (.optional "mtu") .nil
  ofVal := fun (a, b, c, d, ()) => ⟨ofVal a, ofVal b, ofVal c, ofVal d⟩
  toVal x := (toVal x.id, toVal x.adminStatus, toVal x.linkStatus, toVal x.mtu, ())
  toVal_ofVal := fun (a, b, c, d, ()) => by simp; rfl
  ofVal_toVal x := by simp

/-- The counters of a network interface. -/
structure InterfaceCounters where
  id : Option String
  rxBytes : Option Int64
  rxDropped : Option Int64
  rxErrors : Option Int64
  rxFrame : Option Int64
  rxPackets : Option Int64
  txBytes : Option Int64
  txCarrier : Option Int64
  txCollisions : Option Int64
  txDropped : Option Int64
  txErrors : Option Int64
  txPackets : Option Int64

instance : Document InterfaceCounters where
  shape := .record "NodeInterfaceStatistics" <|
    member (Option String) (.optional "interface_id") <|
    member (Option Int64) (.optional "rx_bytes") <|
    member (Option Int64) (.optional "rx_dropped") <|
    member (Option Int64) (.optional "rx_errors") <|
    member (Option Int64) (.optional "rx_frame") <|
    member (Option Int64) (.optional "rx_packets") <|
    member (Option Int64) (.optional "tx_bytes") <|
    member (Option Int64) (.optional "tx_carrier") <|
    member (Option Int64) (.optional "tx_colls") <|
    member (Option Int64) (.optional "tx_dropped") <|
    member (Option Int64) (.optional "tx_errors") <|
    member (Option Int64) (.optional "tx_packets") .nil
  ofVal := fun (a, b, c, d, e, f, g, h, i, j, k, l, ()) =>
    ⟨ofVal a, ofVal b, ofVal c, ofVal d, ofVal e, ofVal f, ofVal g, ofVal h, ofVal i, ofVal j,
     ofVal k, ofVal l⟩
  toVal x := (toVal x.id, toVal x.rxBytes, toVal x.rxDropped, toVal x.rxErrors, toVal x.rxFrame,
    toVal x.rxPackets, toVal x.txBytes, toVal x.txCarrier, toVal x.txCollisions, toVal x.txDropped,
    toVal x.txErrors, toVal x.txPackets, ())
  toVal_ofVal := fun (a, b, c, d, e, f, g, h, i, j, k, l, ()) => by simp; rfl
  ofVal_toVal x := by simp

end FabricGauges
