import FabricGauges.Document.Basic

/-!
# Gateway documents

Gateways come in two kinds. The state of one says whether its configuration is realized and on which
edge nodes it runs; its two members go by a name for each kind and by one that names no kind.
-/

namespace FabricGauges

open Document (member ofVal toVal)

/-- The two kinds of gateways. -/
inductive GatewayKind where
  /-- Between the fabric and the outside. -/
  | tier0
  /-- Between a tenant and the fabric. -/
  | tier1
deriving DecidableEq, Repr

/-- The name of a kind in metric names and in logs. -/
def GatewayKind.name : GatewayKind → String
  | tier0 => "tier0"
  | tier1 => "tier1"

/-- The path segment under which the gateways of a kind are found. -/
def GatewayKind.collection : GatewayKind → String
  | tier0 => "tier-0s"
  | tier1 => "tier-1s"

/-- The settings of a gateway. -/
structure Gateway where
  id : String
  displayName : Option String
  path : Option String
  haMode : Option String

instance : Document Gateway where
  shape := .record "Gateway" <|
    member String (.required "id") <|
    member (Option String) (.optional "display_name") <|
    member (Option String) (.optional "path") <|
    member (Option String) (.optional "ha_mode") .nil
  ofVal := fun (a, b, c, d, ()) => ⟨ofVal a, ofVal b, ofVal c, ofVal d⟩
  toVal x := (toVal x.id, toVal x.displayName, toVal x.path, toVal x.haMode, ())
  toVal_ofVal := fun (a, b, c, d, ()) => by simp; rfl
  ofVal_toVal x := by simp

/-- How far the configuration of a gateway is realized. -/
structure RouterState where
  routerId : Option String
  state : Option String
  failureCode : Option Int64
  failureMessage : Option String
  /-- One entry, of any form, for each transport node. -/
  details : List Json.Sorted

instance : Document RouterState where
  shape := .record "LogicalRouterState" <|
    member (Option String) (.optional "logical_router_id") <|
    member (Option String) (.optional "state") <|
    member (Option Int64) (.optional "failure_code") <|
    member (Option String) (.optional "failure_message") <|
    member (List Json.Sorted) (.optional "details") .nil
  ofVal := fun (a, b, c, d, e, ()) => ⟨ofVal a, ofVal b, ofVal c, ofVal d, ofVal e⟩
  toVal x := (toVal x.routerId, toVal x.state, toVal x.failureCode, toVal x.failureMessage,
    toVal x.details, ())
  toVal_ofVal := fun (a, b, c, d, e, ()) => by simp; rfl
  ofVal_toVal x := by simp

/-- An edge node that a gateway runs on. -/
structure EdgeNode where
  path : Option String
  transportNodeId : Option String
  haStatus : Option String

instance : Document EdgeNode where
  shape := .record "EdgeNodeStatus" <|
    member (Option String) (.optional "edge_path") <|
    member (Option String) (.optional "transport_node_id") <|
    member (Option String) (.optional "high_availability_status") .nil
  ofVal := fun (a, b, c, ()) => ⟨ofVal a, ofVal b, ofVal c⟩
  toVal x := (toVal x.path, toVal x.transportNodeId, toVal x.haStatus, ())
  toVal_ofVal := fun (a, b, c, ()) => by simp; rfl
  ofVal_toVal x := by simp

/-- The edge nodes of a gateway. -/
structure RouterStatus where
  routerId : Option String
  edgeNodes : List EdgeNode

instance : Document RouterStatus where
  shape := .record "LogicalRouterStatus" <|
    member (Option String) (.optional "logical_router_id") <|
    member (List EdgeNode) (.optional "per_node_status") .nil
  ofVal := fun (a, b, ()) => ⟨ofVal a, ofVal b⟩
  toVal x := (toVal x.routerId, toVal x.edgeNodes, ())
  toVal_ofVal := fun (a, b, ()) => by simp; rfl
  ofVal_toVal x := by simp

/-- The state of a gateway. -/
structure GatewayState where
  state : RouterState
  status : RouterStatus

instance : Document GatewayState where
  shape := .record "GatewayState" <|
    member RouterState ⟨"state", ["tier0_state", "tier1_state"], .blank, false⟩ <|
    member RouterStatus ⟨"status", ["tier0_status", "tier1_status"], .blank, false⟩ .nil
  ofVal := fun (a, b, ()) => ⟨ofVal a, ofVal b⟩
  toVal x := (toVal x.state, toVal x.status, ())
  toVal_ofVal := fun (a, b, ()) => by simp; rfl
  ofVal_toVal x := by simp

end FabricGauges
