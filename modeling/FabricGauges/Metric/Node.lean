import FabricGauges.Certificate.Chain
import FabricGauges.Log.Event
import FabricGauges.Metric.Sample
import FabricGauges.Record.Basic
import FabricGauges.Record.Key

/-!
# Samples of the cluster and of its nodes

A node with a chain of certificates that is broken keeps all its other samples, and the
certificates before the break too; the first broken chain is what the stage fails with.
-/

namespace FabricGauges

/-- The status of a cluster that is well. -/
def stableStatus : String := "STABLE"

/-- The status of a node that takes part in the management cluster. -/
def connectedStatus : String := "CONNECTED"

/-- The samples of the two clusters. -/
def ClusterStatus.samples (c : ClusterStatus) : List Sample :=
  [⟨.cluster .control, [statusLabel c.control.status], statusValue c.control.status stableStatus⟩,
    ⟨.cluster .management, [statusLabel c.management.status],
      statusValue c.management.status stableStatus⟩]

/-- The counter that a family shows. -/
def InterfaceMetric.read (counters : InterfaceCounters) : InterfaceMetric → Option Int64
  | .rxByte => counters.rxBytes
  | .rxDropped => counters.rxDropped
  | .rxError => counters.rxErrors
  | .rxFrame => counters.rxFrame
  | .rxPacket => counters.rxPackets
  | .txByte => counters.txBytes
  | .txCarrier => counters.txCarrier
  | .txColl => counters.txCollisions
  | .txDropped => counters.txDropped
  | .txError => counters.txErrors
  | .txPacket => counters.txPackets

/-- The samples of a file system. -/
def FileSystem.samples (labels : List String) (f : FileSystem) : List Sample :=
  let labels := labels ++ [f.kind.getD "", f.mount.getD ""]
  Sample.observeInt (.node .fsTotal) labels f.total ++
    Sample.observeInt (.node .fsUsed) labels f.used

/-- The samples of the load averages, if there are three of them. -/
def loadSamples (labels : List String) : List Double → List Sample
  | [load1, load5, load15] =>
    [⟨.node .load1, labels, load1⟩, ⟨.node .load5, labels, load5⟩, ⟨.node .load15, labels, load15⟩]
  | _ => []

/-- The samples of a node's resources. -/
def SystemUsage.samples (labels : List String) (s : SystemUsage) : List Sample :=
  Sample.observeInt (.node .cpu) labels s.cpuCores ++
    s.fileSystems.flatMap (FileSystem.samples labels) ++
    loadSamples labels s.loadAverage ++
    Sample.observeInt (.node .memTotal) labels s.memoryTotal ++
    Sample.observeInt (.node .memUsed) labels s.memoryUsed ++
    Sample.observeInt (.node .memCache) labels s.memoryCache ++
    Sample.observeInt (.node .uptime) labels s.uptime

/-- The samples of an interface. -/
def InterfaceRecord.samples (labels : List String) (i : InterfaceRecord) : List Sample :=
  let labels := labels ++ [i.settings.id]
  let settings := do
    let admin ← i.settings.adminStatus
    let link ← i.settings.linkStatus
    let mtu ← i.settings.mtu
    return labels ++ [admin, link, toString mtu.toInt]
  Sample.presence (.node .interface) settings ++
    InterfaceMetric.all.flatMap fun m =>
      Sample.observeInt (.interface m) labels (m.read i.counters)

/-- The text in which a listener presents its certificates. -/
def Listener.chain? (l : Option Listener) : Option String := l.bind (·.certificate)

/-- What a listener's text was decoded to. -/
structure ListenerChain where
  /-- The name of the listener. -/
  listener : String
  decoded : Except BrokenChain (List Expiry)

namespace ListenerChain

/-- The certificates that were read, whether or not the chain is broken. -/
def parsed (c : ListenerChain) : List Expiry :=
  match c.decoded with
  | .ok expiries => expiries
  | .error broken => broken.parsed

/-- The break, if there is one. -/
def broken? (c : ListenerChain) : Option BrokenChain :=
  match c.decoded with
  | .ok _ => none
  | .error broken => some broken

/-- The samples of the certificates. -/
def samples (labels : List String) (c : ListenerChain) : List Sample :=
  c.parsed.map fun e =>
    ⟨.node .certificates, labels ++ [c.listener, toString e.index], .ofInt e.notAfter⟩

end ListenerChain

namespace NodeRecord

/-- The labels that identify a node: its identifier, its address and its name. -/
def labels (n : NodeRecord) : List String :=
  [n.settings.id, n.settings.listenAddress.getD "", nameOr n.settings.displayName n.settings.id]

/-- The chains that the listeners of a node present, in the order of the listeners. -/
def chains (n : NodeRecord) : List ListenerChain :=
  match n.settings.managerRole with
  | none => []
  | some role =>
    [("api", role.api), ("mgmt_cluster", role.cluster), ("mgmt_plane", role.plane)].filterMap
      fun (name, listener) =>
        (Listener.chain? listener).map fun pem => ⟨name, Chain.decode pem⟩

/-- The first broken chain of a node. -/
def brokenChain? (n : NodeRecord) : Option BrokenChain := n.chains.findSome? (·.broken?)

/-- What is logged about the broken chains of a node. -/
def warnings (n : NodeRecord) : List Event :=
  n.chains.filterMap fun c =>
    c.broken?.map fun broken => .invalidCertificate n.settings.id c.listener broken.message

/-- The status of a node in the management cluster. -/
def membership (n : NodeRecord) : Option String := n.status.membership.bind (·.status)

/-- The samples of a node. -/
def samples (n : NodeRecord) : List Sample :=
  [⟨.node .status, n.labels, statusValue n.membership connectedStatus⟩] ++
    (n.status.system.toList.flatMap (SystemUsage.samples n.labels)) ++
    Sample.presence (.node .version) (n.status.version.map fun version => n.labels ++ [version]) ++
    n.chains.flatMap (ListenerChain.samples n.labels) ++
    n.interfaces.flatMap (InterfaceRecord.samples n.labels)

end NodeRecord

end FabricGauges
