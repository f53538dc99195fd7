import FabricGauges.Metric.Basic

/-!
# Families that are reset

Before a stage fills its families, it resets them, each by its own name: a list for each resource,
and within it shorter lists for the traffic and the session counts. Which families a stage fills is
settled elsewhere, so a family may be forgotten here; `Stage.mem_resets_iff` says that none is.
-/

namespace FabricGauges

/-- The families that are reset with the traffic of a resource: counts with their rates, then the
sessions that have been handled and the most at a time. -/
def Carrier.resets (c : Carrier) : List Metric :=
  [.traffic c .httpRequest, .traffic c .httpRequestRate, .traffic c .inPacket,
    .traffic c .inPacketRate, .traffic c .outPacket, .traffic c .outPacketRate,
    .traffic c .inByte, .traffic c .inByteRate, .traffic c .outByte, .traffic c .outByteRate,
    .traffic c .session, .traffic c .sessionRate, .traffic c .sessionTotal,
    .traffic c .sessionMax]

/-- The families that are reset with the session counts of a layer. -/
def Layer.resets (layer : Layer) : List Metric :=
  [.session layer .rate, .session layer .current, .session layer .total, .session layer .max]

/-- The families that are reset with the members of pools. -/
def MemberMetric.resets : List Metric :=
  [.member .status, .member .failure] ++ Carrier.member.resets

/-- The families that are reset with a resource. The counters of interfaces are kept in a table,
which is gone through as it is. -/
def Resource.resets : Resource → List Metric
  | cluster => [.cluster .control, .cluster .management]
  | node =>
    [.node .status, .node .cpu, .node .fsTotal, .node .fsUsed, .node .load1, .node .load5,
      .node .load15, .node .memTotal, .node .memUsed, .node .memCache, .node .uptime,
      .node .version, .node .certificates, .node .interface] ++
      InterfaceMetric.all.map .interface
  | balancer =>
    [.balancer .enable, .balancer .status, .balancer .info, .balancer .cpu, .balancer .mem,
      .balancer .error, .balancer .alarm, .balancer .virtualServer] ++
      Layer.l4.resets ++ Layer.l7.resets
  | virtualServer =>
    [.virtualServer .enable, .virtualServer .status, .virtualServer .info, .virtualServer .alarm,
      .virtualServer .sourceIp] ++ Carrier.virtualServer.resets
  | pool =>
    [.pool .status, .pool .info, .pool .alarm, .pool .member, .pool .memberMin] ++
      Carrier.pool.resets ++ MemberMetric.resets
  | gateway kind =>
    [.gateway kind .info, .gateway kind .status, .gateway kind .failure, .gateway kind .transport,
      .gateway kind .edge]

/-- The resources whose families a stage resets, in this order. -/
def Stage.resources : Stage → List Resource
  | cluster => [.cluster]
  | nodes => [.node]
  | balancers => [.balancer, .virtualServer, .pool]
  | gateways kind => [.gateway kind]

/-- The families that a stage resets. -/
def Stage.resets (stage : Stage) : List Metric := stage.resources.flatMap Resource.resets

/-! ## Nothing is forgotten -/

/-- What is reset with a resource is about the resource. -/
theorem Resource.resource_of_mem_resets {r : Resource} {m : Metric} (h : m ∈ r.resets) :
    m.resource = r := by
  have hall : ∀ m ∈ r.resets, m.resource = r := by
    cases r with
    | gateway kind => cases kind <;> decide
    | _ => decide
  exact hall m h

/-- Every family is reset with the resource that it is about. -/
theorem Metric.mem_resets (m : Metric) : m ∈ m.resource.resets := by
  cases m with
  | cluster m => cases m <;> decide
  | interface m => cases m <;> decide
  | node m => cases m <;> decide
  | balancer m => cases m <;> decide
  | session layer m => cases layer <;> cases m <;> decide
  | virtualServer m => cases m <;> decide
  | pool m => cases m <;> decide
  | member m => cases m <;> decide
  | traffic carrier m => cases carrier <;> cases m <;> decide
  | gateway kind m => cases kind <;> cases m <;> decide

theorem Resource.mem_resets_iff {r : Resource} {m : Metric} : m ∈ r.resets ↔ m.resource = r :=
  ⟨resource_of_mem_resets, fun h => h ▸ m.mem_resets⟩

theorem Stage.mem_resources_iff {stage : Stage} {r : Resource} :
    r ∈ stage.resources ↔ r.stage = stage := by
  cases stage <;> cases r <;> simp [resources, Resource.stage, eq_comm]

/-- A stage resets the families that are its own, all of them and no others. -/
theorem Stage.mem_resets_iff {stage : Stage} {m : Metric} : m ∈ stage.resets ↔ m.stage = stage := by
  simp only [resets, List.mem_flatMap, mem_resources_iff, Resource.mem_resets_iff, exists_eq_right',
    Metric.stage]

end FabricGauges
