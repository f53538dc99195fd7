import FabricGauges.Manager.Gateway

/-!
# Metric families

Every family that is published, with its name, its description and its labels. Families are grouped
by the resource they are about, and each belongs to the stage of a cycle that fills it. The order of
`Metric.all` is that of the exposition.
-/

namespace FabricGauges

/-- The name, the description and the label names of a family. -/
structure Family where
  name : String
  help : String
  labels : List String
deriving DecidableEq, Repr

/-- What a family is about. Session counts belong to the load balancer, the counters of an interface
to the node, and those of a member to the pool. -/
inductive Resource where
  | cluster
  | node
  | balancer
  | virtualServer
  | pool
  | gateway (kind : GatewayKind)
deriving DecidableEq, Repr

/-- The parts of a cycle, each of which fills families of its own. -/
inductive Stage where
  | cluster
  | nodes
  | balancers
  | gateways (kind : GatewayKind)
deriving DecidableEq, Repr

/-- The stage that fills the families about a resource. -/
def Resource.stage : Resource → Stage
  | cluster => .cluster
  | node => .nodes
  | balancer | virtualServer | pool => .balancers
  | gateway kind => .gateways kind

/-- The families about the two clusters. -/
inductive ClusterMetric where
  | control
  | management
deriving DecidableEq, Repr

/-- The counters of a network interface. -/
inductive InterfaceMetric where
  | rxByte
  | rxDropped
  | rxError
  | rxFrame
  | rxPacket
  | txByte
  | txCarrier
  | txColl
  | txDropped
  | txError
  | txPacket
deriving DecidableEq, Repr

/-- All of them, in order. -/
def InterfaceMetric.all : List InterfaceMetric :=
  [.rxByte, .rxDropped, .rxError, .rxFrame, .rxPacket, .txByte, .txCarrier, .txColl, .txDropped,
    .txError, .txPacket]

/-- The end of the family name. -/
def InterfaceMetric.stem : InterfaceMetric → String
  | .rxByte => "rx_byte"
  | .rxDropped => "rx_dropped"
  | .rxError => "rx_error"
  | .rxFrame => "rx_frame"
  | .rxPacket => "rx_packet"
  | .txByte => "tx_byte"
  | .txCarrier => "tx_carrier"
  | .txColl => "tx_coll"
  | .txDropped => "tx_dropped"
  | .txError => "tx_error"
  | .txPacket => "tx_packet"

/-- The description of the family. -/
def InterfaceMetric.help : InterfaceMetric → String
  | .rxByte => "Bytes received"
  | .rxDropped => "Received packets dropped"
  | .rxError => "Receive errors"
  | .rxFrame => "Receive framing errors"
  | .rxPacket => "Packets received"
  | .txByte => "Bytes sent"
  | .txCarrier => "Carrier losses while sending"
  | .txColl => "Collisions while sending"
  | .txDropped => "Sent packets dropped"
  | .txError => "Send errors"
  | .txPacket => "Packets sent"

/-- The other families about a management node. -/
inductive NodeMetric where
  | status
  | cpu
  | fsTotal
  | fsUsed
  | load1
  | load5
  | load15
  | memTotal
  | memUsed
  | memCache
  | uptime
  | version
  | certificates
  | interface
deriving DecidableEq, Repr

/-- All of them, in order. -/
def NodeMetric.all : List NodeMetric :=
  [.status, .cpu, .fsTotal, .fsUsed, .load1, .load5, .load15, .memTotal, .memUsed, .memCache,
    .uptime, .version, .certificates, .interface]

/-- The end of the family name. -/
def NodeMetric.stem : NodeMetric → String
  | .status => "status"
  | .cpu => "cpu"
  | .fsTotal => "fs_total"
  | .fsUsed => "fs_used"
  | .load1 => "load1"
  | .load5 => "load5"
  | .load15 => "load15"
  | .memTotal => "mem_total"
  | .memUsed => "mem_used"
  | .memCache => "mem_cache"
  | .uptime => "uptime"
  | .version => "version"
  | .certificates => "certificates"
  | .interface => "interface"

/-- The description of the family. -/
def NodeMetric.help : NodeMetric → String
  | .status => "Management cluster status of the node, 1 is CONNECTED"
  | .cpu => "Number of CPU cores"
  | .fsTotal => "File system size in kilobytes"
  | .fsUsed => "File system usage in kilobytes"
  | .load1 => "Load average over 1 minute"
  | .load5 => "Load average over 5 minutes"
  | .load15 => "Load average over 15 minutes"
  | .memTotal => "Total memory in kilobytes"
  | .memUsed => "Used memory in kilobytes"
  | .memCache => "Cache memory in kilobytes"
  | .uptime => "Milliseconds since the node booted"
  | .version => "Software version as label, value is always 1"
  | .certificates => "Expiry of listener certificates in seconds since epoch"
  | .interface => "Interface settings as labels, value is always 1"

/-- The labels that every family of a node has. -/
def nodeLabels : List String := ["uuid", "ip", "name"]

/-- The labels of a family. -/
def NodeMetric.labels : NodeMetric → List String
  | .fsTotal | .fsUsed => nodeLabels ++ ["type", "mount"]
  | .version => nodeLabels ++ ["version"]
  | .certificates => nodeLabels ++ ["type", "index"]
  | .interface => nodeLabels ++ ["dev", "admin", "link", "mtu"]
  | _ => nodeLabels

/-- The families about a load balancer. -/
inductive BalancerMetric where
  | enable
  | status
  | info
  | cpu
  | mem
  | error
  | alarm
  | virtualServer
deriving DecidableEq, Repr

/-- All of them, in order. -/
def BalancerMetric.all : List BalancerMetric :=
  [.enable, .status, .info, .cpu, .mem, .error, .alarm, .virtualServer]

/-- The end of the family name. -/
def BalancerMetric.stem : BalancerMetric → String
  | .enable => "enable"
  | .status => "status"
  | .info => "info"
  | .cpu => "cpu"
  | .mem => "mem"
  | .error => "error"
  | .alarm => "alarm"
  | .virtualServer => "virtual_server"

/-- The description of the family. -/
def BalancerMetric.help : BalancerMetric → String
  | .enable => "Whether the load balancer is enabled"
  | .status => "Status of the load balancer, 1 is UP"
  | .info => "Load balancer settings as labels, value is always 1"
  | .cpu => "CPU usage in percent"
  | .mem => "Memory usage in percent"
  | .error => "Error reported by the load balancer, value is always 1"
  | .alarm => "Alarm firing on the load balancer, value is always 1"
  | .virtualServer => "Number of virtual servers attached to the load balancer"

/-- The labels that a family has besides the name and the identifier. -/
def BalancerMetric.extraLabels : BalancerMetric → List String
  | .status => ["status"]
  | .info => ["size"]
  | .error => ["message"]
  | .alarm => ["error_id", "message"]
  | _ => []

/-- The layers on which a load balancer counts sessions. -/
inductive Layer where
  | l4
  | l7
deriving DecidableEq, Repr

/-- The name of a layer in a family name. -/
def Layer.stem : Layer → String
  | .l4 => "l4"
  | .l7 => "l7"

/-- The name of a layer in a description. -/
def Layer.title : Layer → String
  | .l4 => "L4"
  | .l7 => "L7"

/-- The session counts of a layer. -/
inductive SessionMetric where
  | rate
  | current
  | total
  | max
deriving DecidableEq, Repr

/-- All of them, in order. -/
def SessionMetric.all : List SessionMetric :=
  [.rate, .current, .total, .max]

/-- The end of the family name. -/
def SessionMetric.stem : SessionMetric → String
  | .rate => "rate"
  | .current => "current"
  | .total => "total"
  | .max => "max"

/-- How the description of the family begins. -/
def SessionMetric.quantity : SessionMetric → String
  | .rate => "Rate per second of"
  | .current => "Current"
  | .total => "Total"
  | .max => "Maximum concurrent"

/-- The families about a virtual server, traffic apart. -/
inductive VirtualServerMetric where
  | enable
  | status
  | info
  | alarm
  | sourceIp
deriving DecidableEq, Repr

/-- All of them, in order. -/
def VirtualServerMetric.all : List VirtualServerMetric :=
  [.enable, .status, .info, .alarm, .sourceIp]

/-- The end of the family name. -/
def VirtualServerMetric.stem : VirtualServerMetric → String
  | .enable => "enable"
  | .status => "status"
  | .info => "info"
  | .alarm => "alarm"
  | .sourceIp => "source_ip"

/-- The description of the family. -/
def VirtualServerMetric.help : VirtualServerMetric → String
  | .enable => "Whether the virtual server is enabled"
  | .status => "Status of the virtual server, 1 is UP"
  | .info => "Virtual server settings as labels, value is always 1"
  | .alarm => "Alarm firing on the virtual server, value is always 1"
  | .sourceIp => "Number of source IP persistence entries"

/-- The labels that a family has besides the name and the identifier. -/
def VirtualServerMetric.extraLabels : VirtualServerMetric → List String
  | .status => ["status"]
  | .info => ["ip", "pool_id", "lb_id"]
  | .alarm => ["error_id", "message"]
  | _ => []

/-- The families about a pool, traffic apart. -/
inductive PoolMetric where
  | status
  | info
  | alarm
  | member
  | memberMin
deriving DecidableEq, Repr

/-- All of them, in order. -/
def PoolMetric.all : List PoolMetric :=
  [.status, .info, .alarm, .member, .memberMin]

/-- The end of the family name. -/
def PoolMetric.stem : PoolMetric → String
  | .status => "status"
  | .info => "info"
  | .alarm => "alarm"
  | .member => "member"
  | .memberMin => "member_min"

/-- The description of the family. -/
def PoolMetric.help : PoolMetric → String
  | .status => "Status of the pool, 1 is UP"
  | .info => "Pool settings as labels, value is always 1"
  | .alarm => "Alarm firing on the pool, value is always 1"
  | .member => "Number of members in the pool"
  | .memberMin => "Minimum number of active members for the pool to be up"

/-- The labels that a family has besides the name and the identifier. -/
def PoolMetric.extraLabels : PoolMetric → List String
  | .status => ["status"]
  | .info => ["port", "algorithm"]
  | .alarm => ["error_id", "message"]
  | _ => []

/-- The families about a pool member, traffic apart. -/
inductive MemberMetric where
  | status
  | failure
deriving DecidableEq, Repr

/-- All of them, in order. -/
def MemberMetric.all : List MemberMetric :=
  [.status, .failure]

/-- The end of the family name. -/
def MemberMetric.stem : MemberMetric → String
  | .status => "status"
  | .failure => "failure"

/-- The description of the family. -/
def MemberMetric.help : MemberMetric → String
  | .status => "Status of the pool member, 1 is UP"
  | .failure => "Failure cause of the pool member, value is always 1"

/-- The labels that a family has besides the name and the identifier. -/
def MemberMetric.extraLabels : MemberMetric → List String
  | .status => ["status"]
  | .failure => ["cause"]

/-- The resources that report traffic. -/
inductive Carrier where
  | virtualServer
  | pool
  | member
deriving DecidableEq, Repr

namespace Carrier

/-- The name of a resource in a family name. -/
def stem : Carrier → String
  | virtualServer => "virtual_server"
  | pool => "pool"
  | member => "pool_member"

/-- The name of a resource in a description. -/
def title : Carrier → String
  | virtualServer => "virtual server"
  | pool => "pool"
  | member => "pool member"

/-- The labels that identify a resource. -/
def labels : Carrier → List String
  | virtualServer | pool => ["name", "id"]
  | member => ["name", "id", "ip", "port"]

end Carrier

/-- The traffic counts of a resource. -/
inductive TrafficMetric where
  | httpRequest
  | httpRequestRate
  | inPacket
  | inPacketRate
  | outPacket
  | outPacketRate
  | inByte
  | inByteRate
  | outByte
  | outByteRate
  | session
  | sessionRate
  | sessionTotal
  | sessionMax
deriving DecidableEq, Repr

/-- All of them, in order. -/
def TrafficMetric.all : List TrafficMetric :=
  [.httpRequest, .httpRequestRate, .inPacket, .inPacketRate, .outPacket, .outPacketRate, .inByte,
    .inByteRate, .outByte, .outByteRate, .session, .sessionRate, .sessionTotal, .sessionMax]

/-- The end of the family name. -/
def TrafficMetric.stem : TrafficMetric → String
  | .httpRequest => "http_request"
  | .httpRequestRate => "http_request_rate"
  | .inPacket => "in_packet"
  | .inPacketRate => "in_packet_rate"
  | .outPacket => "out_packet"
  | .outPacketRate => "out_packet_rate"
  | .inByte => "in_byte"
  | .inByteRate => "in_byte_rate"
  | .outByte => "out_byte"
  | .outByteRate => "out_byte_rate"
  | .session => "session"
  | .sessionRate => "session_rate"
  | .sessionTotal => "session_total"
  | .sessionMax => "session_max"

/-- The description of the family of a resource. -/
def TrafficMetric.help (m : TrafficMetric) (c : Carrier) : String :=
  match m with
  | .httpRequest => "Number of HTTP requests on " ++ c.title
  | .httpRequestRate => "Rate of HTTP requests per second on " ++ c.title
  | .inPacket => "Number of received packets on " ++ c.title
  | .inPacketRate => "Rate of received packets per second on " ++ c.title
  | .outPacket => "Number of sent packets on " ++ c.title
  | .outPacketRate => "Rate of sent packets per second on " ++ c.title
  | .inByte => "Number of received bytes on " ++ c.title
  | .inByteRate => "Rate of received bytes per second on " ++ c.title
  | .outByte => "Number of sent bytes on " ++ c.title
  | .outByteRate => "Rate of sent bytes per second on " ++ c.title
  | .session => "Number of current sessions on " ++ c.title
  | .sessionRate => "Rate of current sessions per second on " ++ c.title
  | .sessionTotal => "Total sessions handled by " ++ c.title
  | .sessionMax => "Maximum concurrent sessions on " ++ c.title

/-- The families about a kind of gateways. -/
inductive GatewayMetric where
  | info
  | status
  | failure
  | transport
  | edge
deriving DecidableEq, Repr

/-- All of them, in order. -/
def GatewayMetric.all : List GatewayMetric :=
  [.info, .status, .failure, .transport, .edge]

/-- The end of the family name. -/
def GatewayMetric.stem : GatewayMetric → String
  | .info => "info"
  | .status => "status"
  | .failure => "failure"
  | .transport => "transport"
  | .edge => "edge"

/-- The description of the family of a kind. -/
def GatewayMetric.help (m : GatewayMetric) (kind : GatewayKind) : String :=
  match m with
  | .info => s!"HA mode of the {kind.name} gateway as label, value is always 1"
  | .status => s!"Realization state of the {kind.name} gateway, 1 is in_sync"
  | .failure => s!"Realization failure of the {kind.name} gateway, value is always 1"
  | .transport => s!"Number of transport nodes of the {kind.name} gateway"
  | .edge => s!"HA status of each edge node of the {kind.name} gateway, value is always 1"

/-- The labels of a family. -/
def GatewayMetric.labels : GatewayMetric → List String
  | .info => ["id", "name", "mode"]
  | .status => ["id", "name"]
  | .failure => ["id", "name", "code", "message"]
  | .transport => ["id", "name"]
  | .edge => ["id", "name", "index", "mode"]

/-- A metric family. -/
inductive Metric where
  | cluster (m : ClusterMetric)
  | interface (m : InterfaceMetric)
  | node (m : NodeMetric)
  | balancer (m : BalancerMetric)
  | session (layer : Layer) (m : SessionMetric)
  | virtualServer (m : VirtualServerMetric)
  | pool (m : PoolMetric)
  | member (m : MemberMetric)
  | traffic (carrier : Carrier) (m : TrafficMetric)
  | gateway (kind : GatewayKind) (m : GatewayMetric)
deriving DecidableEq, Repr

namespace Metric

/-- The family of a metric. -/
def family : Metric → Family
  | cluster .control =>
    ⟨"cluster_control_status", "Status of the control cluster, 1 is STABLE", ["status"]⟩
  | cluster .management =>
    ⟨"cluster_mgmt_status", "Status of the management cluster, 1 is STABLE", ["status"]⟩
  | interface m => ⟨"cluster_node_interface_" ++ m.stem, m.help, nodeLabels ++ ["dev"]⟩
  | node m => ⟨"cluster_node_" ++ m.stem, m.help, m.labels⟩
  | balancer m => ⟨"load_balancer_" ++ m.stem, m.help, ["name", "id"] ++ m.extraLabels⟩
  | session layer m =>
    ⟨s!"load_balancer_session_{layer.stem}_{m.stem}",
      s!"{m.quantity} {layer.title} sessions on load balancer", ["name", "id"]⟩
  | virtualServer m => ⟨"virtual_server_" ++ m.stem, m.help, ["name", "id"] ++ m.extraLabels⟩
  | pool m => ⟨"pool_" ++ m.stem, m.help, ["name", "id"] ++ m.extraLabels⟩
  | member m => ⟨"pool_member_" ++ m.stem, m.help, ["name", "id", "ip", "port"] ++ m.extraLabels⟩
  | traffic c m => ⟨c.stem ++ "_" ++ m.stem, m.help c, c.labels⟩
  | gateway kind m => ⟨kind.name ++ "_" ++ m.stem, m.help kind, m.labels⟩

/-- What a family is about. -/
def resource : Metric → Resource
  | cluster _ => .cluster
  | interface _ | node _ => .node
  | balancer _ | session _ _ => .balancer
  | virtualServer _ | traffic .virtualServer _ => .virtualServer
  | pool _ | member _ | traffic .pool _ | traffic .member _ => .pool
  | gateway kind _ => .gateway kind

/-- The stage that fills a family. -/
def stage (m : Metric) : Stage := m.resource.stage

/-- Every family, in the order of the exposition. -/
def all : List Metric :=
  [cluster .control, cluster .management] ++
    InterfaceMetric.all.map interface ++ NodeMetric.all.map node ++
    BalancerMetric.all.map balancer ++
    SessionMetric.all.map (session .l4) ++ SessionMetric.all.map (session .l7) ++
    VirtualServerMetric.all.map virtualServer ++ TrafficMetric.all.map (traffic .virtualServer) ++
    PoolMetric.all.map pool ++ TrafficMetric.all.map (traffic .pool) ++
    MemberMetric.all.map member ++ TrafficMetric.all.map (traffic .member) ++
    GatewayMetric.all.map (gateway .tier0) ++ GatewayMetric.all.map (gateway .tier1)

end Metric

end FabricGauges
