import FabricGauges.Metric.Sample
import FabricGauges.Record.Basic
import FabricGauges.Record.Key

/-!
# Samples of load balancers, virtual servers and pools

Each resource is identified by its name and its identifier, a pool member by those of its pool and
by its own address and port. Counts are those of the status documents.
-/

namespace FabricGauges

/-- The status of a resource that works. -/
def upStatus : String := "UP"

/-- The counter that a traffic family shows. -/
def TrafficMetric.read (t : TrafficCounters) : TrafficMetric → Option Double
  | .httpRequest => t.httpRequests.map Sample.ofInt64
  | .httpRequestRate => t.httpRequestRate
  | .inPacket => t.packetsIn.map Sample.ofInt64
  | .inPacketRate => t.packetsInRate
  | .outPacket => t.packetsOut.map Sample.ofInt64
  | .outPacketRate => t.packetsOutRate
  | .inByte => t.bytesIn.map Sample.ofInt64
  | .inByteRate => t.bytesInRate
  | .outByte => t.bytesOut.map Sample.ofInt64
  | .outByteRate => t.bytesOutRate
  | .session => t.sessions.map Sample.ofInt64
  | .sessionRate => t.sessionRate
  | .sessionTotal => t.totalSessions.map Sample.ofInt64
  | .sessionMax => t.maxSessions.map Sample.ofInt64

/-- The traffic samples of a resource. -/
def TrafficCounters.samples (c : Carrier) (labels : List String) (t : TrafficCounters) :
    List Sample :=
  TrafficMetric.all.flatMap fun m => Sample.observe (.traffic c m) labels (m.read t)

/-- The counter that a session family shows. -/
def SessionMetric.read (s : SessionCounters) : Layer → SessionMetric → Option Double
  | .l4, .rate => s.l4Rate
  | .l4, .current => s.l4Current.map Sample.ofInt64
  | .l4, .total => s.l4Total.map Sample.ofInt64
  | .l4, .max => s.l4Max.map Sample.ofInt64
  | .l7, .rate => s.l7Rate
  | .l7, .current => s.l7Current.map Sample.ofInt64
  | .l7, .total => s.l7Total.map Sample.ofInt64
  | .l7, .max => s.l7Max.map Sample.ofInt64

/-- The session samples of a load balancer. -/
def SessionCounters.samples (labels : List String) (s : SessionCounters) : List Sample :=
  [Layer.l4, Layer.l7].flatMap fun layer =>
    SessionMetric.all.flatMap fun m => Sample.observe (.session layer m) labels (m.read s layer)

/-- The sample of an alarm, if it says both what it is and what it means. -/
def alarmSamples (metric : Metric) (labels : List String) (alarm : Option Alarm) : List Sample :=
  Sample.presence metric do
    let alarm ← alarm
    let errorId ← alarm.errorId
    let message ← alarm.message
    return labels ++ [errorId, message]

/-- The sample of a status: whether the resource is up, under its status as a label. -/
def upSample (metric : Metric) (labels : List String) (status : Option String) : Sample :=
  ⟨metric, labels ++ [statusLabel status], statusValue status upStatus⟩

namespace VirtualServerRecord

/-- The labels that identify a virtual server. -/
def labels (v : VirtualServerRecord) : List String :=
  [nameOr v.settings.displayName v.settings.id, v.settings.id]

/-- The samples of a virtual server. -/
def samples (v : VirtualServerRecord) : List Sample :=
  let settings := do
    let address ← v.settings.address
    let pool ← v.settings.poolPath
    let balancer ← v.settings.balancerPath
    return v.labels ++ [address, lastSegment pool, lastSegment balancer]
  [⟨.virtualServer .enable, v.labels, flagValue v.settings.enabled⟩,
      upSample (.virtualServer .status) v.labels v.status.status] ++
    Sample.presence (.virtualServer .info) settings ++
    alarmSamples (.virtualServer .alarm) v.labels v.status.alarm ++
    v.statistics.traffic.toList.flatMap fun t =>
      Sample.observeInt (.virtualServer .sourceIp) v.labels t.sourceIpEntries ++
        t.samples .virtualServer v.labels

end VirtualServerRecord

/-- The samples of a pool member, given the labels of its pool. -/
def MemberRecord.samples (pool : List String) (m : MemberRecord) : List Sample :=
  let labels := pool ++ [m.status.address.getD "", m.status.port.getD ""]
  [upSample (.member .status) labels m.status.status] ++
    Sample.presence (.member .failure) (m.status.failureCause.map fun cause => labels ++ [cause]) ++
    m.statistics.traffic.toList.flatMap (TrafficCounters.samples .member labels)

namespace PoolRecord

/-- The labels that identify a pool. -/
def labels (p : PoolRecord) : List String :=
  [nameOr p.settings.displayName p.settings.id, p.settings.id]

/-- The samples of a pool and of its members. -/
def samples (p : PoolRecord) : List Sample :=
  let settings := do
    let port ← p.settings.memberGroup.bind (·.port)
    let algorithm ← p.settings.algorithm
    return p.labels ++ [toString port.toInt, algorithm]
  [upSample (.pool .status) p.labels p.status.status] ++
    Sample.presence (.pool .info) settings ++
    alarmSamples (.pool .alarm) p.labels p.status.alarm ++
    [Sample.count (.pool .member) p.labels p.status.members.length] ++
    Sample.observeInt (.pool .memberMin) p.labels p.settings.minActiveMembers ++
    p.statistics.traffic.toList.flatMap (TrafficCounters.samples .pool p.labels) ++
    p.members.flatMap (MemberRecord.samples p.labels)

end PoolRecord

namespace BalancerRecord

/-- The labels that identify a load balancer. -/
def labels (b : BalancerRecord) : List String :=
  [nameOr b.settings.displayName b.settings.id, b.settings.id]

/-- The samples of a load balancer itself. -/
def ownSamples (b : BalancerRecord) : List Sample :=
  [⟨.balancer .enable, b.labels, flagValue b.settings.enabled⟩,
      upSample (.balancer .status) b.labels b.status.status] ++
    Sample.presence (.balancer .info) (b.settings.size.map fun size => b.labels ++ [size]) ++
    Sample.observeInt (.balancer .cpu) b.labels b.status.cpuUsage ++
    Sample.observeInt (.balancer .mem) b.labels b.status.memoryUsage ++
    Sample.presence (.balancer .error)
      (b.status.errorMessage.map fun message => b.labels ++ [message]) ++
    alarmSamples (.balancer .alarm) b.labels b.status.alarm ++
    [Sample.count (.balancer .virtualServer) b.labels b.status.virtualServers.length] ++
    b.statistics.sessions.toList.flatMap (SessionCounters.samples b.labels)

/-- The samples of a load balancer, of its virtual servers and of its pools. -/
def samples (b : BalancerRecord) : List Sample :=
  b.ownSamples ++ b.virtualServers.flatMap VirtualServerRecord.samples ++
    b.pools.flatMap PoolRecord.samples

end BalancerRecord

end FabricGauges
