import FabricGauges.Client.Basic
import FabricGauges.Manager.Request

/-!
# Where requests go

Each request has a path of fixed segments and identifiers below the base URL, and some pairs that
its query holds; a page after the first is asked for with its cursor.
-/

namespace FabricGauges

/-- The path of what a listing lists. -/
def Listing.path : Listing → String
  | .balancers => "/policy/api/v1/infra/lb-services"
  | .gateways kind => "/policy/api/v1/infra/" ++ kind.collection

namespace Request

/-- The path of a node. -/
def nodePath (node : String) : String := "/api/v1/cluster/nodes/" ++ node

/-- The path of a request. -/
def path : Request → String
  | clusterStatus => "/api/v1/cluster/status"
  | nodeConfig node => nodePath node
  | nodeStatus node => nodePath node ++ "/status"
  | interfaces node => nodePath node ++ "/network/interfaces"
  | interface node id => nodePath node ++ "/network/interfaces/" ++ id
  | interfaceCounters node id => nodePath node ++ "/network/interfaces/" ++ id ++ "/stats"
  | page listing _ => listing.path
  | balancer id => Listing.path .balancers ++ "/" ++ id
  | balancerStatus id => Listing.path .balancers ++ "/" ++ id ++ "/detailed-status"
  | balancerStatistics id => Listing.path .balancers ++ "/" ++ id ++ "/statistics"
  | virtualServer id => "/policy/api/v1/infra/lb-virtual-servers/" ++ id
  | pool id => "/policy/api/v1/infra/lb-pools/" ++ id
  | gatewayState kind id => Listing.path (.gateways kind) ++ "/" ++ id ++ "/state"

/-- The pairs of a request that do not depend on a cursor. -/
def fixedPairs : Request → List (String × String)
  | page .balancers _ => [("include_mark_for_delete_objects", "false")]
  | balancerStatus _ => [("source", "realtime"), ("include_instance_details", "false")]
  | balancerStatistics _ => [("source", "realtime")]
  | _ => []

/-- The cursor of a request, if it asks for a page after the first. -/
def cursor : Request → Option String
  | page _ cursor => cursor
  | _ => none

/-- The pairs of a request. -/
def pairs (r : Request) : List (String × String) :=
  r.fixedPairs ++ (r.cursor.map fun c => ("cursor", c)).toList

end Request

namespace Client

/-- The URL of a request as messages show it, without its pairs. -/
def url (c : Client) (r : Request) : String := c.baseUrl ++ r.path

/-- The URL that is asked for. -/
def location (c : Client) (r : Request) : Except UrlFault Url :=
  (Url.ofText (c.url r)).map (·.addPairs r.pairs)

end Client

end FabricGauges
