import FabricGauges.Proofs.Cycle.Accepted
import FabricGauges.Proofs.Gauge.Overlay
import FabricGauges.Proofs.Metric.Filter

/-!
# Statuses as they are reported

The status of a load balancer, a virtual server, a pool or a pool member is a label of its series,
so two reports of one resource with different statuses are two series. A cycle that succeeds shows
every status that it was told and no other; that a resource has one status only is up to the
manager, which may list it twice and answer differently the second time.
-/

namespace FabricGauges

open Fetch

/-! ## Reports -/

/-- What was said about the status of a resource. -/
structure StatusReport where
  /-- The labels that identify the resource. -/
  identity : List String
  status : Option String

/-- The families of statuses about load balancers and what belongs to them. -/
inductive StatusFamily where
  | balancer
  | virtualServer
  | pool
  | member

namespace StatusFamily

/-- The metric of the family. -/
def metric : StatusFamily → Metric
  | balancer => .balancer .status
  | virtualServer => .virtualServer .status
  | pool => .pool .status
  | member => .member .status

/-- What a record of a load balancer reports for a family. -/
def reports (b : BalancerRecord) : StatusFamily → List StatusReport
  | balancer => [⟨b.labels, b.status.status⟩]
  | virtualServer => b.virtualServers.map fun v => ⟨v.labels, v.status.status⟩
  | pool => b.pools.map fun p => ⟨p.labels, p.status.status⟩
  | member => b.pools.flatMap fun p => p.members.map fun m =>
      ⟨p.labels ++ [m.status.address.getD "", m.status.port.getD ""], m.status.status⟩

end StatusFamily

/-! ## Status samples of records -/

section

variable {m : Metric}

theorem filter_ownSamples (b : BalancerRecord) :
    b.ownSamples.filter (·.metric = .balancer .status) =
      [upSample (.balancer .status) b.labels b.status.status] := by
  have hsessions : (b.statistics.sessions.toList.flatMap
      (SessionCounters.samples b.labels)).filter (·.metric = .balancer .status) = [] :=
    filter_flatMap_of_forall fun _ => filter_flatMap_of_forall fun _ =>
      filter_flatMap_of_forall fun _ => filter_observe_of_ne (by simp) _
  unfold BalancerRecord.ownSamples
  simp only [List.filter_append, hsessions]
  simp [filter_presence_of_ne, filter_observe_of_ne, Sample.observeInt, alarmSamples, Sample.count,
    upSample]

theorem filter_virtualServer (v : VirtualServerRecord) :
    v.samples.filter (·.metric = .virtualServer .status) =
      [upSample (.virtualServer .status) v.labels v.status.status] := by
  have htraffic : ∀ t : TrafficCounters, (Sample.observeInt (.virtualServer .sourceIp) v.labels
      t.sourceIpEntries ++ t.samples .virtualServer v.labels).filter
        (·.metric = .virtualServer .status) = [] := by
    intro t
    rw [List.filter_append, filter_traffic_of_ne (by simp), Sample.observeInt,
      filter_observe_of_ne (by simp)]
    rfl
  unfold VirtualServerRecord.samples
  simp only [List.filter_append, filter_flatMap_of_forall htraffic]
  simp [filter_presence_of_ne, alarmSamples, upSample]

/-- The status among the samples of a pool member is its own. -/
theorem filter_member (r : MemberRecord) (pool : List String)
    (hm : m = .pool .status ∨ m = .member .status) :
    (r.samples pool).filter (·.metric = m) =
      [upSample (.member .status) (pool ++ [r.status.address.getD "", r.status.port.getD ""])
        r.status.status].filter (·.metric = m) := by
  have hfailure : Metric.member .failure ≠ m := by
    rcases hm with rfl | rfl <;> simp
  have htraffic : ∀ labels, (r.statistics.traffic.toList.flatMap
      (TrafficCounters.samples .member labels)).filter (·.metric = m) = [] :=
    fun labels => filter_flatMap_of_forall
      (filter_traffic_of_ne (by rcases hm with rfl | rfl <;> simp))
  unfold MemberRecord.samples
  simp only [List.filter_append, htraffic, filter_presence_of_ne hfailure, List.append_nil]

/-- The statuses among the samples of a pool are its own and those of its members. -/
theorem filter_pool (p : PoolRecord) (hm : m = .pool .status ∨ m = .member .status) :
    p.samples.filter (·.metric = m) =
      [upSample (.pool .status) p.labels p.status.status].filter (·.metric = m) ++
        p.members.flatMap fun r => (r.samples p.labels).filter (·.metric = m) := by
  have htraffic : (p.statistics.traffic.toList.flatMap
      (TrafficCounters.samples .pool p.labels)).filter (·.metric = m) = [] :=
    filter_flatMap_of_forall (filter_traffic_of_ne (by rcases hm with rfl | rfl <;> simp))
  unfold PoolRecord.samples
  simp only [List.filter_append, htraffic, List.filter_flatMap]
  rcases hm with rfl | rfl <;>
    simp [filter_presence_of_ne, filter_observe_of_ne, Sample.observeInt, alarmSamples,
      Sample.count]

end

/-- The samples of a load balancer about a family of statuses are its reports. -/
theorem StatusFamily.filter_samples (f : StatusFamily) (b : BalancerRecord) :
    b.samples.filter (·.metric = f.metric) =
      (f.reports b).map fun r => upSample f.metric r.identity r.status := by
  -- the samples of other resources are about other families
  have hown : ∀ {m : Metric}, m.resource ≠ .balancer → b.ownSamples.filter (·.metric = m) = [] :=
    fun hm => (AllOf.ownBalancer b).filter_eq_nil hm
  have hservers : ∀ {m : Metric}, m.resource ≠ .virtualServer →
      (b.virtualServers.flatMap VirtualServerRecord.samples).filter (·.metric = m) = [] :=
    fun hm => filter_flatMap_of_forall fun v => (AllOf.virtualServer v).filter_eq_nil hm
  have hpools : ∀ {m : Metric}, m.resource ≠ .pool →
      (b.pools.flatMap PoolRecord.samples).filter (·.metric = m) = [] :=
    fun hm => filter_flatMap_of_forall fun p => (AllOf.pool p).filter_eq_nil hm
  unfold BalancerRecord.samples
  rw [List.filter_append, List.filter_append]
  cases f with
  -- one sample of its own
  | balancer =>
    rw [hservers (by decide), hpools (by decide), metric, filter_ownSamples]
    rfl
  | virtualServer =>
    rw [hown (by decide), hpools (by decide), List.filter_flatMap, metric]
    simp only [filter_virtualServer, reports, List.map_map, List.nil_append, List.append_nil]
    exact List.map_eq_flatMap.symm
  | pool =>
    rw [hown (by decide), hservers (by decide), List.filter_flatMap, metric]
    have hpool : ∀ p : PoolRecord, p.samples.filter (·.metric = .pool .status) =
        [upSample (.pool .status) p.labels p.status.status] := by
      intro p
      have hmembers : p.members.flatMap (fun r =>
          (r.samples p.labels).filter (·.metric = .pool .status)) = [] :=
        List.flatMap_eq_nil_iff.2 fun r _ => filter_member r p.labels (.inl rfl)
      rw [filter_pool p (.inl rfl), hmembers]
      rfl
    simp only [hpool, reports, List.map_map, List.nil_append]
    exact List.map_eq_flatMap.symm
  -- one sample for each member of each pool
  | member =>
    rw [hown (by decide), hservers (by decide), List.filter_flatMap, metric]
    simp only [reports, List.nil_append, List.map_flatMap, List.map_map]
    refine List.flatMap_congr fun p _ => ?_
    have hmember : ∀ r : MemberRecord, (r.samples p.labels).filter (·.metric = .member .status) =
        [upSample (.member .status)
          (p.labels ++ [r.status.address.getD "", r.status.port.getD ""]) r.status.status] :=
      fun r => filter_member r p.labels (.inr rfl)
    rw [filter_pool p (.inr rfl)]
    simp only [hmember]
    exact List.map_eq_flatMap.symm

namespace StatusFamily

variable {records : List BalancerRecord}

theorem mem_samples_iff (f : StatusFamily) {s : Sample} :
    s ∈ records.flatMap BalancerRecord.samples ∧ s.metric = f.metric ↔
      ∃ r ∈ records.flatMap f.reports, upSample f.metric r.identity r.status = s := by
  have hsamples : (records.flatMap BalancerRecord.samples).filter (·.metric = f.metric) =
      (records.flatMap f.reports).map fun r => upSample f.metric r.identity r.status := by
    rw [List.filter_flatMap, List.map_flatMap]
    exact List.flatMap_congr fun b _ => f.filter_samples b
  rw [← List.mem_map, ← hsamples, List.mem_filter, decide_eq_true_iff]

end StatusFamily

/-! ## Families of statuses -/

theorem length_le_one_iff {α : Type} {l : List α} (h : l.Nodup) :
    l.length ≤ 1 ↔ ∀ x ∈ l, ∀ y ∈ l, x = y := by
  rcases l with _ | ⟨first, _ | ⟨second, rest⟩⟩
  · simp
  · simp
  · have hne : first ≠ second := fun heq => (List.nodup_cons.1 h).1 (heq ▸ List.mem_cons_self)
    constructor
    · intro hlength
      simp only [List.length_cons] at hlength
      omega
    · intro hall
      exact absurd (hall first List.mem_cons_self second (.tail _ (.head _))) hne

namespace Board

/-- If samples of one series have one value, a family that was blank holds all its samples. -/
theorem mem_family_setAll_iff {m : Metric} {samples : List Sample}
    (hvalues : ∀ s ∈ samples, ∀ s' ∈ samples, s.metric = m → s'.metric = m →
      s.labels = s'.labels → s.value = s'.value) {labels : List String} {value : Double} :
    (labels, value) ∈ (blank.setAll samples).family m ↔ ⟨m, labels, value⟩ ∈ samples := by
  refine ⟨mem_of_mem_family_setAll, fun hmem => ?_⟩
  obtain ⟨⟨labels', value'⟩, hshown, rfl⟩ := List.mem_map.1 (shows_setAll hmem blank)
  have hvalue : value = value' :=
    hvalues _ hmem _ (mem_of_mem_family_setAll hshown) rfl rfl rfl
  rw [hvalue]
  exact hshown

/-- A family has at most one series about a resource: one with its labels before the last one, which
is the status. -/
def OneStatus (b : Board) (m : Metric) (identity : List String) : Prop :=
  ((b.family m).filter fun series => series.1.dropLast = identity).length ≤ 1

theorem oneStatus_iff {b : Board} {m : Metric} {identity : List String} :
    b.OneStatus m identity ↔ ∀ series ∈ b.family m, ∀ series' ∈ b.family m,
      series.1.dropLast = identity → series'.1.dropLast = identity → series = series' := by
  have hnodup : ((b.family m).filter fun series => series.1.dropLast = identity).Nodup :=
    ((b.nodup_family m).of_map _).filter _
  unfold OneStatus
  rw [length_le_one_iff hnodup]
  simp only [List.mem_filter, decide_eq_true_iff, and_imp]
  constructor
  · intro hall series hmem series' hmem' hidentity hidentity'
    exact hall series hmem hidentity series' hmem' hidentity'
  · intro hall series hmem hidentity series' hmem' hidentity'
    exact hall series hmem series' hmem' hidentity hidentity'

end Board

/-- The series of a family of statuses are those of the reports. -/
theorem StatusFamily.mem_family_iff {records : List BalancerRecord} (f : StatusFamily)
    {labels : List String} {value : Double} :
    (labels, value) ∈
        (Board.blank.setAll (records.flatMap BalancerRecord.samples)).family f.metric ↔
      ∃ r ∈ records.flatMap f.reports, labels = r.identity ++ [statusLabel r.status] ∧
        value = if statusLabel r.status = upStatus then .one else .zero := by
  have hvalue : ∀ status, statusValue status upStatus =
      if statusLabel status = upStatus then .one else .zero :=
    statusValue_eq (by decide)
  have hreport : ∀ s : Sample, s ∈ records.flatMap BalancerRecord.samples → s.metric = f.metric →
      ∃ r ∈ records.flatMap f.reports, s.labels = r.identity ++ [statusLabel r.status] ∧
        s.value = if statusLabel r.status = upStatus then .one else .zero := by
    intro s hs hmetric
    obtain ⟨r, hr, rfl⟩ := f.mem_samples_iff.1 ⟨hs, hmetric⟩
    exact ⟨r, hr, rfl, hvalue _⟩
  rw [Board.mem_family_setAll_iff]
  · constructor
    · exact fun hmem => hreport _ hmem rfl
    · intro h
      obtain ⟨r, hr, rfl, rfl⟩ := h
      have hsample := f.mem_samples_iff.2 ⟨r, hr, rfl⟩
      rw [upSample, hvalue] at hsample
      exact hsample.1
  · -- the value of a status is read off its label
    intro s hs s' hs' hmetric hmetric' hlabels
    obtain ⟨r, -, hr, hvalue⟩ := hreport s hs hmetric
    obtain ⟨r', -, hr', hvalue'⟩ := hreport s' hs' hmetric'
    rw [hr, hr'] at hlabels
    have hstatus := (List.append_inj' hlabels rfl).2
    rw [hvalue, hvalue', (List.cons.inj hstatus).1]

/-- A resource has one series at most in a family that shows the reports if, and only if, no two of
the reports about it differ. -/
theorem StatusFamily.oneStatus_iff (f : StatusFamily) {b : Board} {reports : List StatusReport}
    (h : ∀ labels value, (labels, value) ∈ b.family f.metric ↔
      ∃ r ∈ reports, labels = r.identity ++ [statusLabel r.status] ∧
        value = if statusLabel r.status = upStatus then .one else .zero) {identity : List String} :
    b.OneStatus f.metric identity ↔
      ∀ r ∈ reports, ∀ r' ∈ reports, r.identity = identity → r'.identity = identity →
        statusLabel r.status = statusLabel r'.status := by
  rw [Board.oneStatus_iff]
  constructor
  · intro hall r hr r' hr' hidentity hidentity'
    -- each report is shown, so two of them with the same identity are two series unless they agree
    have hshown : ∀ r ∈ reports, r.identity = identity → ∃ value,
        (identity ++ [statusLabel r.status], value) ∈ b.family f.metric := by
      intro r hr hidentity
      exact ⟨_, (h _ _).2 ⟨r, hr, by rw [hidentity], rfl⟩⟩
    obtain ⟨value, hmem⟩ := hshown r hr hidentity
    obtain ⟨value', hmem'⟩ := hshown r' hr' hidentity'
    have hsame := hall _ hmem _ hmem' List.dropLast_concat List.dropLast_concat
    have hlabels := List.append_cancel_left (Prod.mk.inj hsame).1
    exact (List.cons.inj hlabels).1
  · intro hall series hmem series' hmem' hidentity hidentity'
    obtain ⟨labels, value⟩ := series
    obtain ⟨labels', value'⟩ := series'
    obtain ⟨r, hr, rfl, rfl⟩ := (h _ _).1 hmem
    obtain ⟨r', hr', rfl, rfl⟩ := (h _ _).1 hmem'
    rw [List.dropLast_concat] at hidentity hidentity'
    rw [hall r hr r' hr' hidentity hidentity', hidentity, hidentity']

namespace Cycle

variable {filters : Filters} {b b' : Board} {cs : List Call} {took : Duration}

/-- After a cycle that has succeeded, the families of statuses show exactly what the load balancers
that were joined in it have reported: each status of each resource once, with one for the status
that is up and zero for any other. A resource has at most one series if, and only if, all reports
about it give it the same status. -/
theorem statuses_are_those_reported (h : Recorded filters b cs (.ok ()) took b') :
    ∃ records es, Runs (balancerRecords filters) (callsOf .balancers cs) es (.ok records) ∧
      ∀ f : StatusFamily,
        let reports := records.flatMap f.reports
        ((b'.family f.metric).map Prod.fst).Nodup ∧
        (∀ labels value, (labels, value) ∈ b'.family f.metric ↔
          ∃ r ∈ reports, labels = r.identity ++ [statusLabel r.status] ∧
            value = if statusLabel r.status = upStatus then .one else .zero) ∧
        ∀ identity, b'.OneStatus f.metric identity ↔
          ∀ r ∈ reports, ∀ r' ∈ reports, r.identity = identity → r'.identity = identity →
            statusLabel r.status = statusLabel r'.status := by
  obtain ⟨ids, samples, ⟨es, hgather⟩, hfamily⟩ := family_of_ok h .balancers
  obtain ⟨records, hrun, rfl⟩ := runs_map_ok.1 hgather
  refine ⟨records, es, hrun, fun f => ?_⟩
  have hseries : ∀ labels value, (labels, value) ∈ b'.family f.metric ↔
      ∃ r ∈ records.flatMap f.reports, labels = r.identity ++ [statusLabel r.status] ∧
        value = if statusLabel r.status = upStatus then .one else .zero := by
    intro labels value
    rw [hfamily f.metric (by cases f <;> rfl)]
    exact f.mem_family_iff
  exact ⟨b'.nodup_family _, hseries, fun _ => f.oneStatus_iff hseries⟩

/-- A load balancer that is listed twice, with the same status both times. -/
theorem relisted_balancer_has_one_status :
    let lb : Balancer := ⟨"lb", none, none, none, none, none⟩
    let status : BalancerStatus := ⟨none, some "UP", none, none, none, none, [], []⟩
    let about : List Call :=
      [⟨.balancer "lb", .ok lb⟩, ⟨.balancerStatus "lb", .ok ⟨[status], none, none⟩⟩,
        ⟨.balancerStatistics "lb", .ok ⟨[⟨none, none, [], []⟩], none, none⟩⟩]
    let cs : List Call :=
      [⟨.clusterStatus, .ok ⟨⟨none⟩, ⟨none, [], []⟩⟩⟩,
        ⟨.page .balancers none, .ok ⟨[lb, lb], none, none⟩⟩] ++ about ++ about ++
        [⟨.page (.gateways .tier1) none, .ok ⟨[], none, none⟩⟩,
          ⟨.page (.gateways .tier0) none, .ok ⟨[], none, none⟩⟩]
    ∃ b', Recorded .none .blank cs (.ok ()) ⟨1⟩ b' ∧
      (["lb", "lb", "UP"], .one) ∈ b'.family (.balancer .status) ∧
      b'.OneStatus (.balancer .status) ["lb", "lb"] := by
  intro lb status about cs
  let record : BalancerRecord := ⟨lb, status, ⟨none, none, [], []⟩, [], []⟩
  have hrecorded : ∃ b', Recorded .none .blank cs (.ok ()) ⟨1⟩ b' :=
    ⟨_, _, .onward rfl _ (.onward rfl _ (.onward rfl _ (.onward rfl _ (.onward rfl _
      (.onward rfl _ (.onward rfl _ (.onward rfl _ (.onward rfl _ (.onward rfl _
        (.here _)))))))))), rfl⟩
  have hrun : ∃ es, Runs (balancerRecords .none) (callsOf .balancers cs) es
      (.ok [record, record]) :=
    ⟨_, .onward rfl _ (.onward rfl _ (.onward rfl _ (.onward rfl _ (.onward rfl _
      (.onward rfl _ (.onward rfl _ (.here _)))))))⟩
  obtain ⟨b', hb'⟩ := hrecorded
  obtain ⟨records, es, hrecords, hstatuses⟩ := statuses_are_those_reported hb'
  obtain ⟨es', hrun⟩ := hrun
  obtain rfl : records = [record, record] := Except.ok.inj (hrecords.unique hrun).2
  obtain ⟨-, hseries, hone⟩ := hstatuses .balancer
  refine ⟨b', hb', ?_, ?_⟩
  · exact (hseries _ _).2 ⟨_, List.mem_cons_self, rfl, rfl⟩
  · refine (hone _).2 fun r hr r' hr' _ _ => ?_
    -- both times the same status is reported
    have hup : ∀ r ∈ [record, record].flatMap fun b => StatusFamily.reports b .balancer,
        statusLabel r.status = "UP" := by
      intro r hr
      simp only [StatusFamily.reports, List.flatMap_cons, List.flatMap_nil, List.mem_append,
        List.mem_singleton, List.not_mem_nil, or_false, or_self] at hr
      rw [hr]
      rfl
    rw [hup r hr, hup r' hr']

/-- The pages of a listing overlap, and the load balancer on both of them is up when it is first
asked for its status and down when it is asked again. -/
theorem changed_status_is_shown_twice :
    let lb : Balancer := ⟨"lb", none, none, none, none, none⟩
    let status (shown : String) : BalancerStatus :=
      ⟨none, some shown, none, none, none, none, [], []⟩
    let about (shown : String) : List Call :=
      [⟨.balancer "lb", .ok lb⟩, ⟨.balancerStatus "lb", .ok ⟨[status shown], none, none⟩⟩,
        ⟨.balancerStatistics "lb", .ok ⟨[⟨none, none, [], []⟩], none, none⟩⟩]
    let cs : List Call :=
      [⟨.clusterStatus, .ok ⟨⟨none⟩, ⟨none, [], []⟩⟩⟩,
        ⟨.page .balancers none, .ok ⟨[lb], some "next", none⟩⟩,
        ⟨.page .balancers (some "next"), .ok ⟨[lb], none, none⟩⟩] ++ about "UP" ++ about "DOWN" ++
        [⟨.page (.gateways .tier1) none, .ok ⟨[], none, none⟩⟩,
          ⟨.page (.gateways .tier0) none, .ok ⟨[], none, none⟩⟩]
    ∃ b', Recorded .none .blank cs (.ok ()) ⟨1⟩ b' ∧
      b'.family (.balancer .status) = [(["lb", "lb", "UP"], .one), (["lb", "lb", "DOWN"], .zero)] ∧
      ¬b'.OneStatus (.balancer .status) ["lb", "lb"] := by
  intro lb status about cs
  let record (shown : String) : BalancerRecord :=
    ⟨lb, status shown, ⟨none, none, [], []⟩, [], []⟩
  have hrecorded : ∃ b', Recorded .none .blank cs (.ok ()) ⟨1⟩ b' :=
    ⟨_, _, .onward rfl _ (.onward rfl _ (.onward rfl _ (.onward rfl _ (.onward rfl _
      (.onward rfl _ (.onward rfl _ (.onward rfl _ (.onward rfl _ (.onward rfl _ (.onward rfl _
        (.here _))))))))))), rfl⟩
  -- the same load balancer twice, with the status that was reported each time
  have hrun : ∃ es, Runs (balancerRecords .none) (callsOf .balancers cs) es
      (.ok [record "UP", record "DOWN"]) :=
    ⟨_, .onward rfl _ (.onward rfl _ (.onward rfl _ (.onward rfl _ (.onward rfl _
      (.onward rfl _ (.onward rfl _ (.onward rfl _ (.here _))))))))⟩
  obtain ⟨b', hb'⟩ := hrecorded
  obtain ⟨ids, samples, ⟨es, hgather⟩, hsamples⟩ := family_of_ok hb' .balancers
  obtain ⟨records, hrecords, rfl⟩ := runs_map_ok.1 hgather
  obtain ⟨es', hrun⟩ := hrun
  obtain rfl := Except.ok.inj (hrecords.unique hrun).2
  have hfamily : b'.family (.balancer .status) =
      [(["lb", "lb", "UP"], .one), (["lb", "lb", "DOWN"], .zero)] := by
    rw [hsamples _ rfl]
    decide +kernel
  refine ⟨b', hb', hfamily, ?_⟩
  unfold Board.OneStatus
  rw [hfamily]
  decide

end Cycle

end FabricGauges
