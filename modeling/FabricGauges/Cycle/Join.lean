import FabricGauges.Cycle.Script
import FabricGauges.Filter
import FabricGauges.Record.Basic
import FabricGauges.Record.Index
import FabricGauges.Record.Key

/-!
# Fetching and joining records

The status and the statistics of a load balancer are two parallel trees. The statistics of virtual
servers and of pools are indexed by path, those of pool members by address and port; every status
has to find its statistics, the first of its key. A virtual server that the allow-list rejects is
left out as soon as its settings are known, before its statistics are looked for.
-/

namespace FabricGauges

/-- The only result of a page. -/
def Page.single {α : Type} (p : Page α) (kind id : String) : Except ScrapeError α :=
  match p.results with
  | [] => .error (.notFound kind id)
  | [result] => .ok result
  | results => .error (.tooManyResults kind id results.length)

namespace Fetch

/-- A result that is already known, or its error. -/
def ofExcept {α : Type} (result : Except ScrapeError α) : Fetch α :=
  ExceptT.mk (Script.done result)

/-! ## Nodes -/

/-- An interface of a node, with its counters. -/
def interface (node id : String) : Fetch InterfaceRecord := do
  let settings ← ask (.interface node id)
  let counters ← ask (.interfaceCounters node id)
  return ⟨settings, counters⟩

/-- A node with its interfaces. -/
def node (id : String) : Fetch NodeRecord := do
  let status ← ask (.nodeStatus id)
  let settings ← ask (.nodeConfig id)
  let listing ← ask (.interfaces id)
  let interfaces ← listing.results.mapM fun i => interface id i.id
  log (.nodeFetched id interfaces.length)
  return ⟨settings, status, interfaces⟩

/-! ## Load balancers -/

/-- The statistics of virtual servers by path. -/
def virtualServerIndex (s : BalancerStatistics) : Index String VirtualServerStatistics :=
  .ofList (·.path) s.virtualServers

/-- The statistics of pools by path. -/
def poolIndex (s : BalancerStatistics) : Index String PoolStatistics :=
  .ofList (·.path) s.pools

/-- The statistics of the members of a pool by address and port. -/
def memberIndex (s : PoolStatistics) : Index String MemberStatistics :=
  .ofList (fun m => memberKey m.address m.port) s.members

/-- A virtual server of a load balancer, unless the allow-list rejects it. -/
def virtualServer? (balancer : String) (allowed : AllowList)
    (statistics : Index String VirtualServerStatistics) (status : VirtualServerStatus) :
    Fetch (Option VirtualServerRecord) := do
  let path ← require (.missingKey "virtual server" balancer) status.path
  let settings ← ask (.virtualServer (lastSegment path))
  if allowed.includes settings.displayName settings.id then
    let found ← require (.unresolved "virtual server statistics" path balancer)
      (statistics.find? path)
    return some ⟨settings, status, found⟩
  else
    log (.virtualServerFiltered balancer settings.id)
    return none

/-- A pool member with its statistics. -/
def member (balancer : String) (statistics : Index String MemberStatistics)
    (status : MemberStatus) : Except ScrapeError MemberRecord :=
  match memberKey status.address status.port with
  | none => .error (.missingKey "pool member" balancer)
  | some key =>
    match statistics.find? key with
    | none => .error (.unresolved "pool member statistics" key balancer)
    | some found => .ok ⟨status, found⟩

/-- A pool of a load balancer, with its members. -/
def pool (balancer : String) (statistics : Index String PoolStatistics) (status : PoolStatus) :
    Fetch PoolRecord := do
  let path ← require (.missingKey "pool" balancer) status.path
  let settings ← ask (.pool (lastSegment path))
  let found ← require (.unresolved "pool statistics" path balancer) (statistics.find? path)
  let members ← ofExcept (status.members.mapM (member balancer (memberIndex found)))
  return ⟨settings, status, { found with members := [] }, members⟩

/-- A load balancer with its accepted virtual servers and its pools. -/
def balancer (allowed : AllowList) (id : String) : Fetch BalancerRecord := do
  let settings ← ask (.balancer id)
  let statuses ← ask (.balancerStatus id)
  let status ← ofExcept (statuses.single "load balancer status" id)
  let statistics ← ask (.balancerStatistics id)
  let statistics ← ofExcept (statistics.single "load balancer statistics" id)
  let virtualServers ←
    status.virtualServers.mapM (virtualServer? id allowed (virtualServerIndex statistics))
  let virtualServers := virtualServers.filterMap (·)
  let pools ← status.pools.mapM (pool id (poolIndex statistics))
  log (.balancerFetched id virtualServers.length pools.length)
  return ⟨settings, status, { statistics with virtualServers := [], pools := [] }, virtualServers,
    pools⟩

/-! ## Gateways -/

/-- A listed gateway with its state. -/
def gateway (kind : GatewayKind) (settings : Gateway) : Fetch GatewayRecord := do
  let state ← ask (.gatewayState kind settings.id)
  log (.gatewayStateFetched kind.name settings.id)
  return ⟨settings, state.state, state.status⟩

end Fetch

end FabricGauges
