import FabricGauges.Document.Basic

/-!
# Cluster documents

The state of the control cluster and of the management cluster, and the management nodes, some of
them online and some not.
-/

namespace FabricGauges

open Document (member ofVal toVal)

/-- A node of the management cluster. -/
structure ManagementNode where
  uuid : Option String
  listenAddress : Option String

instance : Document ManagementNode where
  shape := .record "ManagementPlaneNode" <|
    member (Option String) (.optional "uuid") <|
    member (Option String) (.optional "mgmt_cluster_listen_ip_address") .nil
  ofVal := fun (a, b, ()) => ⟨ofVal a, ofVal b⟩
  toVal x := (toVal x.uuid, toVal x.listenAddress, ())
  toVal_ofVal := fun (a, b, ()) => by simp; rfl
  ofVal_toVal x := by simp

/-- The state of the control cluster. -/
structure ControlCluster where
  status : Option String

instance : Document ControlCluster where
  shape := .record "ControlClusterStatus" <|
    member (Option String) (.optional "status") .nil
  ofVal := fun (a, ()) => ⟨ofVal a⟩
  toVal x := (toVal x.status, ())
  toVal_ofVal := fun (a, ()) => by simp; rfl
  ofVal_toVal x := by simp

/-- The state of the management cluster. -/
structure ManagementCluster where
  status : Option String
  online : List ManagementNode
  offline : List ManagementNode

instance : Document ManagementCluster where
  shape := .record "ManagementClusterStatus" <|
    member (Option String) (.optional "status") <|
    member (List ManagementNode) (.optional "online_nodes") <|
    member (List ManagementNode) (.optional "offline_nodes") .nil
  ofVal := fun (a, b, c, ()) => ⟨ofVal a, ofVal b, ofVal c⟩
  toVal x := (toVal x.status, toVal x.online, toVal x.offline, ())
  toVal_ofVal := fun (a, b, c, ()) => by simp; rfl
  ofVal_toVal x := by simp

/-- The state of both clusters. -/
structure ClusterStatus where
  control : ControlCluster
  management : ManagementCluster

instance : Document ClusterStatus where
  shape := .record "ClusterStatus" <|
    member ControlCluster (.optional "control_cluster_status") <|
    member ManagementCluster (.optional "mgmt_cluster_status") .nil
  ofVal := fun (a, b, ()) => ⟨ofVal a, ofVal b⟩
  toVal x := (toVal x.control, toVal x.management, ())
  toVal_ofVal := fun (a, b, ()) => by simp; rfl
  ofVal_toVal x := by simp

/-- The identifiers of the management nodes, those online first. -/
def ClusterStatus.nodeIds (c : ClusterStatus) : List String :=
  (c.management.online ++ c.management.offline).filterMap (·.uuid)

end FabricGauges
