import FabricGauges.Cycle.Join
import FabricGauges.Metric.Balancer
import FabricGauges.Metric.Gateway
import FabricGauges.Metric.Node

/-!
# The scrape cycle

A cycle goes through its stages in order: the cluster, its nodes, the load balancers, the gateways
of tier 1 and those of tier 0. A stage fetches everything it needs before it replaces the samples of
its families, so a stage that fails leaves them as they were. The first error ends the cycle. Only a
broken chain of certificates is reported after the samples of its stage are in place.
-/

namespace FabricGauges.Cycle

open Fetch

/-- The stage of the cluster; gives the identifiers of the nodes. -/
def cluster : Fetch (List String) := do
  let status ← ask .clusterStatus
  log (.clusterFetched status.nodeIds.length)
  publish .cluster status.samples
  return status.nodeIds

/-- The stage of the nodes. -/
def nodes (ids : List String) : Fetch Unit := do
  let records ← ids.mapM node
  (records.flatMap NodeRecord.warnings).forM log
  publish .nodes (records.flatMap NodeRecord.samples)
  match records.findSome? NodeRecord.brokenChain? with
  | some broken => fail (.certificate broken)
  | none => pure ()

/-- The stage of the load balancers, with their virtual servers and pools. -/
def balancers (filters : Filters) : Fetch Unit := do
  let listed ← walk .balancers fun b => filters.balancer.includes b.displayName b.id
  log (.balancersListed listed.length)
  let records ← listed.mapM fun b => balancer filters.virtualServer b.id
  publish .balancers (records.flatMap BalancerRecord.samples)

/-- The stage of a kind of gateways. -/
def gateways (filters : Filters) (kind : GatewayKind) : Fetch Unit := do
  let listed ← walk (.gateways kind) fun g => (filters.gateways kind).includes g.displayName g.id
  log (.gatewaysListed kind.name listed.length)
  let records ← listed.mapM (gateway kind)
  (records.filterMap (GatewayRecord.warning? kind)).forM log
  publish (.gateways kind) (records.flatMap (GatewayRecord.samples kind))

end Cycle

/-- A whole cycle. -/
def cycle (filters : Filters) : Fetch Unit := do
  Cycle.nodes (← Cycle.cluster)
  Cycle.balancers filters
  Cycle.gateways filters .tier1
  Cycle.gateways filters .tier0

end FabricGauges
