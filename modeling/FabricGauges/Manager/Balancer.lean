import FabricGauges.Document.Basic

/-!
# Load balancer documents

A load balancer carries virtual servers and pools, and a pool has members. Settings, status and
statistics of each come in documents of their own: the status and the statistics of a load balancer
are two parallel trees.
-/

namespace FabricGauges

open Document (member ofVal toVal)

/-- The settings of a load balancer. -/
structure Balancer where
  id : String
  displayName : Option String
  path : Option String
  enabled : Option Bool
  size : Option String
  connectivityPath : Option String

instance : Document Balancer where
  shape := .record "LbService" <|
    member String (.required "id") <|
    member (Option String) (.optional "display_name") <|
    member (Option String) (.optional "path") <|
    member (Option Bool) (.optional "enabled") <|
    member (Option String) (.optional "size") <|
    member (Option String) (.optional "connectivity_path") .nil
  ofVal := fun (a, b, c, d, e, f, ()) => ⟨ofVal a, ofVal b, ofVal c, ofVal d, ofVal e, ofVal f⟩
  toVal x := (toVal x.id, toVal x.displayName, toVal x.path, toVal x.enabled, toVal x.size,
    toVal x.connectivityPath, ())
  toVal_ofVal := fun (a, b, c, d, e, f, ()) => by simp; rfl
  ofVal_toVal x := by simp

/-- An alarm on a load balancer, a virtual server or a pool. -/
structure Alarm where
  errorId : Option String
  message : Option String

instance : Document Alarm where
  shape := .record "RuntimeAlarm" <|
    member (Option String) (.optional "error_id") <|
    member (Option String) (.optional "message") .nil
  ofVal := fun (a, b, ()) => ⟨ofVal a, ofVal b⟩
  toVal x := (toVal x.errorId, toVal x.message, ())
  toVal_ofVal := fun (a, b, ()) => by simp; rfl
  ofVal_toVal x := by simp

/-- The status of a virtual server. -/
structure VirtualServerStatus where
  path : Option String
  status : Option String
  alarm : Option Alarm

instance : Document VirtualServerStatus where
  shape := .record "LbVirtualServerStatus" <|
    member (Option String) (.optional "virtual_server_path") <|
    member (Option String) (.optional "status") <|
    member (Option Alarm) (.optional "alarm") .nil
  ofVal := fun (a, b, c, ()) => ⟨ofVal a, ofVal b, ofVal c⟩
  toVal x := (toVal x.path, toVal x.status, toVal x.alarm, ())
  toVal_ofVal := fun (a, b, c, ()) => by simp; rfl
  ofVal_toVal x := by simp

/-- The status of a pool member. -/
structure MemberStatus where
  address : Option String
  port : Option String
  status : Option String
  failureCause : Option String

instance : Document MemberStatus where
  shape := .record "LbPoolMemberStatus" <|
    member (Option String) (.optional "ip_address") <|
    member (Option String) (.optional "port") <|
    member (Option String) (.optional "status") <|
    member (Option String) (.optional "failure_cause") .nil
  ofVal := fun (a, b, c, d, ()) => ⟨ofVal a, ofVal b, ofVal c, ofVal d⟩
  toVal x := (toVal x.address, toVal x.port, toVal x.status, toVal x.failureCause, ())
  toVal_ofVal := fun (a, b, c, d, ()) => by simp; rfl
  ofVal_toVal x := by simp

/-- The status of a pool and of its members. -/
structure PoolStatus where
  path : Option String
  status : Option String
  alarm : Option Alarm
  members : List MemberStatus

instance : Document PoolStatus where
  shape := .record "LbPoolStatus" <|
    member (Option String) (.optional "pool_path") <|
    member (Option String) (.optional "status") <|
    member (Option Alarm) (.optional "alarm") <|
    member (List MemberStatus) (.optional "members") .nil
  ofVal := fun (a, b, c, d, ()) => ⟨ofVal a, ofVal b, ofVal c, ofVal d⟩
  toVal x := (toVal x.path, toVal x.status, toVal x.alarm, toVal x.members, ())
  toVal_ofVal := fun (a, b, c, d, ()) => by simp; rfl
  ofVal_toVal x := by simp

/-- The status of a load balancer, of its virtual servers and of its pools. -/
structure BalancerStatus where
  path : Option String
  status : Option String
  cpuUsage : Option Int64
  memoryUsage : Option Int64
  errorMessage : Option String
  alarm : Option Alarm
  virtualServers : List VirtualServerStatus
  pools : List PoolStatus

instance : Document BalancerStatus where
  shape := .record "LbServiceStatus" <|
    member (Option String) (.optional "service_path") <|
    member (Option String) (.optional "service_status") <|
    member (Option Int64) (.optional "cpu_usage") <|
    member (Option Int64) (.optional "memory_usage") <|
    member (Option String) (.optional "error_message") <|
    member (Option Alarm) (.optional "alarm") <|
    member (List VirtualServerStatus) (.optional "virtual_servers") <|
    member (List PoolStatus) (.optional "pools") .nil
  ofVal := fun (a, b, c, d, e, f, g, h, ()) =>
    ⟨ofVal a, ofVal b, ofVal c, ofVal d, ofVal e, ofVal f, ofVal g, ofVal h⟩
  toVal x := (toVal x.path, toVal x.status, toVal x.cpuUsage, toVal x.memoryUsage,
    toVal x.errorMessage, toVal x.alarm, toVal x.virtualServers, toVal x.pools, ())
  toVal_ofVal := fun (a, b, c, d, e, f, g, h, ()) => by simp; rfl
  ofVal_toVal x := by simp

/-- The sessions of a load balancer on layers 4 and 7. -/
structure SessionCounters where
  l4Rate : Option Double
  l4Current : Option Int64
  l4Max : Option Int64
  l4Total : Option Int64
  l7Rate : Option Double
  l7Current : Option Int64
  l7Max : Option Int64
  l7Total : Option Int64

instance : Document SessionCounters where
  shape := .record "LbServiceStatisticsCounter" <|
    member (Option Double) (.optional "l4_current_session_rate") <|
    member (Option Int64) (.optional "l4_current_sessions") <|
    member (Option Int64) (.optional "l4_max_sessions") <|
    member (Option Int64) (.optional "l4_total_sessions") <|
    member (Option Double) (.optional "l7_current_session_rate") <|
    member (Option Int64) (.optional "l7_current_sessions") <|
    member (Option Int64) (.optional "l7_max_sessions") <|
    member (Option Int64) (.optional "l7_total_sessions") .nil
  ofVal := fun (a, b, c, d, e, f, g, h, ()) =>
    ⟨ofVal a, ofVal b, ofVal c, ofVal d, ofVal e, ofVal f, ofVal g, ofVal h⟩
  toVal x := (toVal x.l4Rate, toVal x.l4Current, toVal x.l4Max, toVal x.l4Total, toVal x.l7Rate,
    toVal x.l7Current, toVal x.l7Max, toVal x.l7Total, ())
  toVal_ofVal := fun (a, b, c, d, e, f, g, h, ()) => by simp; rfl
  ofVal_toVal x := by simp

/-- The traffic of a virtual server, a pool or a pool member. -/
structure TrafficCounters where
  bytesIn : Option Int64
  bytesInRate : Option Double
  bytesOut : Option Int64
  bytesOutRate : Option Double
  sessionRate : Option Double
  sessions : Option Int64
  httpRequestRate : Option Double
  httpRequests : Option Int64
  maxSessions : Option Int64
  packetsIn : Option Int64
  packetsInRate : Option Double
  packetsOut : Option Int64
  packetsOutRate : Option Double
  sourceIpEntries : Option Int64
  totalSessions : Option Int64

instance : Document TrafficCounters where
  shape := .record "LbStatisticsCounter" <|
    member (Option Int64) (.optional "bytes_in") <|
    member (Option Double) (.optional "bytes_in_rate") <|
    member (Option Int64) (.optional "bytes_out") <|
    member (Option Double) (.optional "bytes_out_rate") <|
    member (Option Double) (.optional "current_session_rate") <|
    member (Option Int64) (.optional "current_sessions") <|
    member (Option Double) (.optional "http_request_rate") <|
    member (Option Int64) (.optional "http_requests") <|
    member (Option Int64) (.optional "max_sessions") <|
    member (Option Int64) (.optional "packets_in") <|
    member (Option Double) (.optional "packets_in_rate") <|
    member (Option Int64) (.optional "packets_out") <|
    member (Option Double) (.optional "packets_out_rate") <|
    member (Option Int64) (.optional "source_ip_persistence_entry_size") <|
    member (Option Int64) (.optional "total_sessions") .nil
  ofVal := fun (a, b, c, d, e, f, g, h, i, j, k, l, m, n, o, ()) =>
    ⟨ofVal a, ofVal b, ofVal c, ofVal d, ofVal e, ofVal f, ofVal g, ofVal h, ofVal i, ofVal j,
     ofVal k, ofVal l, ofVal m, ofVal n, ofVal o⟩
  toVal x := (toVal x.bytesIn, toVal x.bytesInRate, toVal x.bytesOut, toVal x.bytesOutRate,
    toVal x.sessionRate, toVal x.sessions, toVal x.httpRequestRate, toVal x.httpRequests,
    toVal x.maxSessions, toVal x.packetsIn, toVal x.packetsInRate, toVal x.packetsOut,
    toVal x.packetsOutRate, toVal x.sourceIpEntries, toVal x.totalSessions, ())
  toVal_ofVal := fun (a, b, c, d, e, f, g, h, i, j, k, l, m, n, o, ()) => by simp; rfl
  ofVal_toVal x := by simp

/-- The statistics of a virtual server. -/
structure VirtualServerStatistics where
  path : Option String
  traffic : Option TrafficCounters

instance : Document VirtualServerStatistics where
  shape := .record "LbVirtualServerStatistics" <|
    member (Option String) (.optional "virtual_server_path") <|
    member (Option TrafficCounters) (.optional "statistics") .nil
  ofVal := fun (a, b, ()) => ⟨ofVal a, ofVal b⟩
  toVal x := (toVal x.path, toVal x.traffic, ())
  toVal_ofVal := fun (a, b, ()) => by simp; rfl
  ofVal_toVal x := by simp

/-- The statistics of a pool member. -/
structure MemberStatistics where
  address : Option String
  port : Option String
  traffic : Option TrafficCounters

instance : Document MemberStatistics where
  shape := .record "LbPoolMemberStatistics" <|
    member (Option String) (.optional "ip_address") <|
    member (Option String) (.optional "port") <|
    member (Option TrafficCounters) (.optional "statistics") .nil
  ofVal := fun (a, b, c, ()) => ⟨ofVal a, ofVal b, ofVal c⟩
  toVal x := (toVal x.address, toVal x.port, toVal x.traffic, ())
  toVal_ofVal := fun (a, b, c, ()) => by simp; rfl
  ofVal_toVal x := by simp

/-- The statistics of a pool and of its members. -/
structure PoolStatistics where
  path : Option String
  traffic : Option TrafficCounters
  members : List MemberStatistics

instance : Document PoolStatistics where
  shape := .record "LbPoolStatistics" <|
    member (Option String) (.optional "pool_path") <|
    member (Option TrafficCounters) (.optional "statistics") <|
    member (List MemberStatistics) (.optional "members") .nil
  ofVal := fun (a, b, c, ()) => ⟨ofVal a, ofVal b, ofVal c⟩
  toVal x := (toVal x.path, toVal x.traffic, toVal x.members, ())
  toVal_ofVal := fun (a, b, c, ()) => by simp; rfl
  ofVal_toVal x := by simp

/-- The statistics of a load balancer, of its virtual servers and of its pools. -/
structure BalancerStatistics where
  path : Option String
  sessions : Option SessionCounters
  virtualServers : List VirtualServerStatistics
  pools : List PoolStatistics

instance : Document BalancerStatistics where
  shape := .record "LbServiceStatistics" <|
    member (Option String) (.optional "service_path") <|
    member (Option SessionCounters) (.optional "statistics") <|
    member (List VirtualServerStatistics) (.optional "virtual_servers") <|
    member (List PoolStatistics) (.optional "pools") .nil
  ofVal := fun (a, b, c, d, ()) => ⟨ofVal a, ofVal b, ofVal c, ofVal d⟩
  toVal x := (toVal x.path, toVal x.sessions, toVal x.virtualServers, toVal x.pools, ())
  toVal_ofVal := fun (a, b, c, d, ()) => by simp; rfl
  ofVal_toVal x := by simp

/-- The settings of a virtual server. -/
structure VirtualServer where
  id : String
  displayName : Option String
  enabled : Option Bool
  address : Option String
  poolPath : Option String
  balancerPath : Option String

instance : Document VirtualServer where
  shape := .record "LbVirtualServer" <|
    member String (.required "id") <|
    member (Option String) (.optional "display_name") <|
    member (Option Bool) (.optional "enabled") <|
    member (Option String) (.optional "ip_address") <|
    member (Option String) (.optional "pool_path") <|
    member (Option String) (.optional "lb_service_path") .nil
  ofVal := fun (a, b, c, d, e, f, ()) => ⟨ofVal a, ofVal b, ofVal c, ofVal d, ofVal e, ofVal f⟩
  toVal x := (toVal x.id, toVal x.displayName, toVal x.enabled, toVal x.address, toVal x.poolPath,
    toVal x.balancerPath, ())
  toVal_ofVal := fun (a, b, c, d, e, f, ()) => by simp; rfl
  ofVal_toVal x := by simp

/-- The group that the members of a pool are taken from. -/
structure MemberGroup where
  path : Option String
  port : Option Int64

instance : Document MemberGroup where
  shape := .record "LbPoolMemberGroup" <|
    member (Option String) (.optional "group_path") <|
    member (Option Int64) (.optional "port") .nil
  ofVal := fun (a, b, ()) => ⟨ofVal a, ofVal b⟩
  toVal x := (toVal x.path, toVal x.port, ())
  toVal_ofVal := fun (a, b, ()) => by simp; rfl
  ofVal_toVal x := by simp

/-- The settings of a pool. -/
structure Pool where
  id : String
  displayName : Option String
  algorithm : Option String
  minActiveMembers : Option Int64
  memberGroup : Option MemberGroup

instance : Document Pool where
  shape := .record "LbPool" <|
    member String (.required "id") <|
    member (Option String) (.optional "display_name") <|
    member (Option String) (.optional "algorithm") <|
    member (Option Int64) (.optional "min_active_members") <|
    member (Option MemberGroup) (.optional "member_group") .nil
  ofVal := fun (a, b, c, d, e, ()) => ⟨ofVal a, ofVal b, ofVal c, ofVal d, ofVal e⟩
  toVal x := (toVal x.id, toVal x.displayName, toVal x.algorithm, toVal x.minActiveMembers,
    toVal x.memberGroup, ())
  toVal_ofVal := fun (a, b, c, d, e, ()) => by simp; rfl
  ofVal_toVal x := by simp

end FabricGauges
