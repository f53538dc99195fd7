import FabricGauges.Proofs.Metric.Provenance

/-!
# The entries of records

The documents about each part of a record make an entry. `Records` are the records that a stage of a
cycle publishes, with the entries of their parts in the order of the records. Every entry gives the
labels that identify its part.
-/

namespace FabricGauges

open Document (toJson)
open LabelSource (readAll?)

/-! ## Entries -/

namespace FileSystem

/-- The documents about a file system of a node. -/
def entry (n : NodeRecord) (f : FileSystem) : Json :=
  .record [("config", toJson n.settings), ("file_system", toJson f)]

end FileSystem

namespace InterfaceRecord

/-- The documents about an interface of a node. -/
def entry (n : NodeRecord) (i : InterfaceRecord) : Json :=
  .record [("config", toJson n.settings), ("interface", toJson i.settings),
    ("statistics", toJson i.counters)]

end InterfaceRecord

namespace NodeRecord

/-- The documents about a node. -/
def entry (n : NodeRecord) : Json :=
  .record [("config", toJson n.settings), ("status", toJson n.status)]

/-- The entries of a node and of what belongs to it. -/
def entries (n : NodeRecord) : Part → List Json
  | .node => [n.entry]
  | .fileSystem => (n.status.system.toList.flatMap (·.fileSystems)).map (FileSystem.entry n)
  | .interface => n.interfaces.map (InterfaceRecord.entry n)
  | _ => []

end NodeRecord

namespace VirtualServerRecord

/-- The documents about a virtual server. -/
def entry (v : VirtualServerRecord) : Json :=
  .record [("config", toJson v.settings), ("status", toJson v.status),
    ("statistics", toJson v.statistics)]

end VirtualServerRecord

namespace MemberRecord

/-- The documents about a member of a pool. -/
def entry (p : PoolRecord) (r : MemberRecord) : Json :=
  .record [("config", toJson p.settings), ("status", toJson r.status),
    ("statistics", toJson r.statistics)]

end MemberRecord

namespace PoolRecord

/-- The documents about a pool. -/
def entry (p : PoolRecord) : Json :=
  .record [("config", toJson p.settings), ("status", toJson p.status),
    ("statistics", toJson p.statistics)]

/-- The entries of a pool and of its members. -/
def entries (p : PoolRecord) : Part → List Json
  | .pool => [p.entry]
  | .member => p.members.map (MemberRecord.entry p)
  | _ => []

end PoolRecord

namespace BalancerRecord

/-- The documents about a load balancer. -/
def entry (b : BalancerRecord) : Json :=
  .record [("config", toJson b.settings), ("status", toJson b.status),
    ("statistics", toJson b.statistics)]

/-- The entries of a load balancer and of what belongs to it. -/
def entries (b : BalancerRecord) : Part → List Json
  | .balancer => [b.entry]
  | .virtualServer => b.virtualServers.map VirtualServerRecord.entry
  | part => b.pools.flatMap fun p => p.entries part

end BalancerRecord

namespace EdgeNode

/-- The documents about an edge node of a gateway. -/
def entry (g : GatewayRecord) (e : EdgeNode) : Json :=
  .record [("config", toJson g.settings), ("edge", toJson e)]

end EdgeNode

namespace GatewayRecord

/-- The documents about a gateway. -/
def entry (g : GatewayRecord) : Json :=
  .record [("config", toJson g.settings), ("state", toJson g.state), ("status", toJson g.status)]

/-- The entries of a gateway and of its edge nodes. -/
def entries (g : GatewayRecord) : Part → List Json
  | .gateway => [g.entry]
  | .edge => g.status.edgeNodes.map (EdgeNode.entry g)
  | _ => []

end GatewayRecord

/-- The records that a stage publishes. -/
inductive Records where
  | cluster (status : ClusterStatus)
  | nodes (records : List NodeRecord)
  | balancers (records : List BalancerRecord)
  | gateways (kind : GatewayKind) (records : List GatewayRecord)

namespace Records

/-- The stage that publishes the records. -/
def stage : Records → Stage
  | cluster _ => .cluster
  | nodes _ => .nodes
  | balancers _ => .balancers
  | gateways kind _ => .gateways kind

/-- The samples that the stage publishes. -/
def samples : Records → List Sample
  | cluster status => status.samples
  | nodes records => records.flatMap NodeRecord.samples
  | balancers records => records.flatMap BalancerRecord.samples
  | gateways kind records => records.flatMap (GatewayRecord.samples kind)

/-- The entries of the records for the parts of a kind. -/
def entries (part : Part) : Records → List Json
  | cluster status => if part = .cluster then [toJson status] else []
  | nodes records => records.flatMap fun n => n.entries part
  | balancers records => records.flatMap fun b => b.entries part
  | gateways _ records => records.flatMap fun g => g.entries part

/-- What the entries of a part are made of. -/
inductive HasEntry : Records → Part → Json → Prop where
  | cluster (status : ClusterStatus) : HasEntry (.cluster status) .cluster (toJson status)
  | node {records : List NodeRecord} (n : NodeRecord) (hn : n ∈ records) :
      HasEntry (.nodes records) .node n.entry
  | fileSystem {records : List NodeRecord} (n : NodeRecord) (f : FileSystem) (hn : n ∈ records)
      (hf : f ∈ n.status.system.toList.flatMap (·.fileSystems)) :
      HasEntry (.nodes records) .fileSystem (f.entry n)
  | interface {records : List NodeRecord} (n : NodeRecord) (i : InterfaceRecord)
      (hn : n ∈ records) (hi : i ∈ n.interfaces) :
      HasEntry (.nodes records) .interface (i.entry n)
  | balancer {records : List BalancerRecord} (b : BalancerRecord) (hb : b ∈ records) :
      HasEntry (.balancers records) .balancer b.entry
  | virtualServer {records : List BalancerRecord} (b : BalancerRecord) (v : VirtualServerRecord)
      (hb : b ∈ records) (hv : v ∈ b.virtualServers) :
      HasEntry (.balancers records) .virtualServer v.entry
  | pool {records : List BalancerRecord} (b : BalancerRecord) (p : PoolRecord) (hb : b ∈ records)
      (hp : p ∈ b.pools) : HasEntry (.balancers records) .pool p.entry
  | member {records : List BalancerRecord} (b : BalancerRecord) (p : PoolRecord)
      (q : MemberRecord) (hb : b ∈ records) (hp : p ∈ b.pools) (hq : q ∈ p.members) :
      HasEntry (.balancers records) .member (q.entry p)
  | gateway {kind : GatewayKind} {records : List GatewayRecord} (g : GatewayRecord)
      (hg : g ∈ records) : HasEntry (.gateways kind records) .gateway g.entry
  | edge {kind : GatewayKind} {records : List GatewayRecord} (g : GatewayRecord) (e : EdgeNode)
      (hg : g ∈ records) (he : e ∈ g.status.edgeNodes) :
      HasEntry (.gateways kind records) .edge (e.entry g)

/-- Records have the entries of each of their parts. -/
theorem hasEntry (r : Records) {part : Part} {entry : Json} (h : entry ∈ r.entries part) :
    r.HasEntry part entry := by
  -- the entries of a part are listed under the records that hold it
  cases r with
  | cluster status =>
    obtain ⟨rfl, hentry⟩ := List.mem_ite_nil_right.1 h
    obtain rfl := List.mem_singleton.1 hentry
    exact .cluster status
  | nodes records =>
    obtain ⟨n, hn, hentry⟩ := List.mem_flatMap.1 h
    cases part with
    | node =>
      obtain rfl := List.mem_singleton.1 hentry
      exact .node n hn
    | fileSystem =>
      obtain ⟨f, hf, rfl⟩ := List.mem_map.1 hentry
      exact .fileSystem n f hn hf
    | interface =>
      obtain ⟨i, hi, rfl⟩ := List.mem_map.1 hentry
      exact .interface n i hn hi
    | _ => cases hentry
  | balancers records =>
    obtain ⟨b, hb, hentry⟩ := List.mem_flatMap.1 h
    cases part with
    | balancer =>
      obtain rfl := List.mem_singleton.1 hentry
      exact .balancer b hb
    | virtualServer =>
      obtain ⟨v, hv, rfl⟩ := List.mem_map.1 hentry
      exact .virtualServer b v hb hv
    | pool =>
      obtain ⟨p, hp, hentry⟩ := List.mem_flatMap.1 hentry
      obtain rfl := List.mem_singleton.1 hentry
      exact .pool b p hb hp
    | member =>
      obtain ⟨p, hp, hentry⟩ := List.mem_flatMap.1 hentry
      obtain ⟨q, hq, rfl⟩ := List.mem_map.1 hentry
      exact .member b p q hb hp hq
    | _ =>
      obtain ⟨p, -, hentry⟩ := List.mem_flatMap.1 hentry
      cases hentry
  | gateways kind records =>
    obtain ⟨g, hg, hentry⟩ := List.mem_flatMap.1 h
    cases part with
    | gateway =>
      obtain rfl := List.mem_singleton.1 hentry
      exact .gateway g hg
    | edge =>
      obtain ⟨e, he, rfl⟩ := List.mem_map.1 hentry
      exact .edge g e hg he
    | _ => cases hentry

end Records

/-! ## Labels of entries -/

/-- The labels of a node can be read from its entry. -/
theorem readAll?_node (n : NodeRecord) :
    readAll? n.entry (Part.identity .node) = some n.labels := by
  obtain ⟨⟨id, name, address, role⟩, status, interfaces⟩ := n
  cases name <;> cases address <;> rfl

/-- The labels of a file system are those of its node, its kind and where it is mounted. -/
theorem readAll?_fileSystem (n : NodeRecord) (f : FileSystem) :
    readAll? (f.entry n) (Part.identity .fileSystem) =
      some (n.labels ++ [f.kind.getD "", f.mount.getD ""]) := by
  obtain ⟨⟨id, name, address, role⟩, status, interfaces⟩ := n
  obtain ⟨device, mount, kind, total, used⟩ := f
  cases name <;> cases address <;> cases kind <;> cases mount <;> rfl

/-- The labels of an interface are those of its node and its identifier. -/
theorem readAll?_interface (n : NodeRecord) (i : InterfaceRecord) :
    readAll? (i.entry n) (Part.identity .interface) = some (n.labels ++ [i.settings.id]) := by
  obtain ⟨⟨id, name, address, role⟩, status, interfaces⟩ := n
  cases name <;> cases address <;> rfl

theorem readAll?_balancer (b : BalancerRecord) :
    readAll? b.entry (Part.identity .balancer) = some b.labels := by
  obtain ⟨⟨id, name, path, enabled, size, connectivity⟩, status, statistics, servers, pools⟩ := b
  cases name <;> rfl

theorem readAll?_virtualServer (v : VirtualServerRecord) :
    readAll? v.entry (Part.identity .virtualServer) = some v.labels := by
  obtain ⟨⟨id, name, enabled, address, pool, balancer⟩, status, statistics⟩ := v
  cases name <;> rfl

theorem readAll?_pool (p : PoolRecord) :
    readAll? p.entry (Part.identity .pool) = some p.labels := by
  obtain ⟨⟨id, name, algorithm, least, group⟩, status, statistics, members⟩ := p
  cases name <;> rfl

/-- The labels of a member are those of its pool, its address and its port. -/
theorem readAll?_member (p : PoolRecord) (r : MemberRecord) :
    readAll? (r.entry p) (Part.identity .member) =
      some (p.labels ++ [r.status.address.getD "", r.status.port.getD ""]) := by
  obtain ⟨⟨id, name, algorithm, least, group⟩, status, statistics, members⟩ := p
  obtain ⟨⟨address, port, status', cause⟩, statistics'⟩ := r
  cases name <;> cases address <;> cases port <;> rfl

theorem readAll?_gateway (g : GatewayRecord) :
    readAll? g.entry (Part.identity .gateway) = some g.labels := by
  obtain ⟨⟨id, name, path, mode⟩, state, status⟩ := g
  cases name <;> rfl

/-- An edge node has the labels of its gateway. -/
theorem readAll?_edge (g : GatewayRecord) (e : EdgeNode) :
    readAll? (e.entry g) (Part.identity .edge) = some g.labels := by
  obtain ⟨⟨id, name, path, mode⟩, state, status⟩ := g
  cases name <;> rfl

/-- Every entry gives the labels that identify its part. -/
theorem Records.exists_identity {r : Records} {part : Part} {entry : Json}
    (h : entry ∈ r.entries part) : ∃ labels, readAll? entry part.identity = some labels := by
  cases r.hasEntry h with
  | cluster => exact ⟨[], rfl⟩
  | node n => exact ⟨_, readAll?_node n⟩
  | fileSystem n f => exact ⟨_, readAll?_fileSystem n f⟩
  | interface n i => exact ⟨_, readAll?_interface n i⟩
  | balancer b => exact ⟨_, readAll?_balancer b⟩
  | virtualServer b v => exact ⟨_, readAll?_virtualServer v⟩
  | pool b p => exact ⟨_, readAll?_pool p⟩
  | member b p q => exact ⟨_, readAll?_member p q⟩
  | gateway g => exact ⟨_, readAll?_gateway g⟩
  | edge g e => exact ⟨_, readAll?_edge g e⟩

end FabricGauges
