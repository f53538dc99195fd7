import FabricGauges.Manager.Balancer
import FabricGauges.Manager.Cluster
import FabricGauges.Manager.Gateway
import FabricGauges.Manager.Node

/-!
# Joined records

What is known about one resource, put together from the documents that the manager keeps about it.
-/

namespace FabricGauges

/-- A network interface with its counters. -/
structure InterfaceRecord where
  settings : Interface
  counters : InterfaceCounters

/-- A management node with its interfaces in the order of their listing. -/
structure NodeRecord where
  settings : NodeConfig
  status : NodeStatus
  interfaces : List InterfaceRecord

/-- A virtual server with its status and statistics. -/
structure VirtualServerRecord where
  settings : VirtualServer
  status : VirtualServerStatus
  statistics : VirtualServerStatistics

/-- A pool member with its statistics. -/
structure MemberRecord where
  status : MemberStatus
  statistics : MemberStatistics

/-- A pool with its members. The statistics of the members are in `members`. -/
structure PoolRecord where
  settings : Pool
  status : PoolStatus
  statistics : PoolStatistics
  members : List MemberRecord

/-- A load balancer with its virtual servers and pools. Their statistics are with them, and those of
the load balancer hold its own counters only. -/
structure BalancerRecord where
  settings : Balancer
  status : BalancerStatus
  statistics : BalancerStatistics
  virtualServers : List VirtualServerRecord
  pools : List PoolRecord

/-- A gateway with its state. -/
structure GatewayRecord where
  settings : Gateway
  state : RouterState
  status : RouterStatus

end FabricGauges
