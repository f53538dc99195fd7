import FabricGauges.Manager.Balancer
import FabricGauges.Manager.Cluster
import FabricGauges.Manager.Gateway
import FabricGauges.Manager.Node
import FabricGauges.Manager.Page

/-!
# Requests

What the manager can be asked, and the type of the document that answers it. Load balancers and
gateways are listed in pages; every other request is answered by one document.
-/

namespace FabricGauges

/-- What can be listed in pages. -/
inductive Listing where
  | balancers
  | gateways (kind : GatewayKind)
deriving DecidableEq, Repr

/-- What the pages of a listing hold. -/
abbrev Listing.Item : Listing → Type
  | .balancers => Balancer
  | .gateways _ => Gateway

/-- What the manager can be asked. -/
inductive Request where
  | clusterStatus
  | nodeConfig (node : String)
  | nodeStatus (node : String)
  | interfaces (node : String)
  | interface (node : String) (interface : String)
  | interfaceCounters (node : String) (interface : String)
  /-- A page of a listing: the first one without a cursor. -/
  | page (listing : Listing) (cursor : Option String)
  | balancer (id : String)
  | balancerStatus (id : String)
  | balancerStatistics (id : String)
  | virtualServer (id : String)
  | pool (id : String)
  | gatewayState (kind : GatewayKind) (id : String)
deriving DecidableEq, Repr

namespace Request

/-- The document that answers a request. -/
abbrev Answer : Request → Type
  | clusterStatus => ClusterStatus
  | nodeConfig _ => NodeConfig
  | nodeStatus _ => NodeStatus
  | interfaces _ => Page Interface
  | interface _ _ => Interface
  | interfaceCounters _ _ => InterfaceCounters
  | page listing _ => Page listing.Item
  | balancer _ => Balancer
  | balancerStatus _ => Page BalancerStatus
  | balancerStatistics _ => Page BalancerStatistics
  | virtualServer _ => VirtualServer
  | pool _ => Pool
  | gatewayState _ _ => GatewayState

instance : (r : Request) → Document r.Answer
  | clusterStatus => inferInstanceAs (Document ClusterStatus)
  | nodeConfig _ => inferInstanceAs (Document NodeConfig)
  | nodeStatus _ => inferInstanceAs (Document NodeStatus)
  | interfaces _ => inferInstanceAs (Document (Page Interface))
  | interface _ _ => inferInstanceAs (Document Interface)
  | interfaceCounters _ _ => inferInstanceAs (Document InterfaceCounters)
  | page .balancers _ => inferInstanceAs (Document (Page Balancer))
  | page (.gateways _) _ => inferInstanceAs (Document (Page Gateway))
  | balancer _ => inferInstanceAs (Document Balancer)
  | balancerStatus _ => inferInstanceAs (Document (Page BalancerStatus))
  | balancerStatistics _ => inferInstanceAs (Document (Page BalancerStatistics))
  | virtualServer _ => inferInstanceAs (Document VirtualServer)
  | pool _ => inferInstanceAs (Document Pool)
  | gatewayState _ _ => inferInstanceAs (Document GatewayState)

end Request

end FabricGauges
