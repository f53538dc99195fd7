import FabricGauges.Proofs.Metric.Entries

/-!
# What is drawn from entries

A family draws a sample from an entry if the entry gives its labels and its value. The samples of a
record are what the families about its parts draw from its entries.
-/

namespace FabricGauges

open Document (toJson)
open LabelSource (readAll?)

variable {m : Metric} {p : Provenance} {labels : List String}

/-! ## Samples of families -/

/-- What a family draws from an entry. -/
def Metric.draw (m : Metric) (entry : Json) : List Sample :=
  (m.provenance?.bind fun p => p.sample? m entry).toList

/-- What some families draw from an entry. -/
def drawAll (ms : List Metric) (entry : Json) : List Sample :=
  ms.flatMap fun m => m.draw entry

section

variable {entry : Json}

/-- Once the labels of an entry are known, only its value is left to be read. -/
theorem draw_eq (hp : m.provenance? = some p) (h : p.labels? entry = some labels) :
    m.draw entry = Sample.observe m labels (p.value.read? entry) := by
  unfold Metric.draw
  rw [hp, Option.bind_some, Provenance.sample?, h]
  cases p.value.read? entry <;> rfl

/-- A family whose labels are the identity of its part draws the value under them. -/
theorem draw_value (hp : m.provenance? = some p)
    (h : readAll? entry p.part.identity = some labels) (hextra : p.extra = []) :
    m.draw entry = Sample.observe m labels (p.value.read? entry) := by
  refine draw_eq hp ?_
  rw [p.labels?_eq h, hextra]
  exact congrArg some (List.append_nil labels)

/-- A family of presence draws one where all of its labels can be read. -/
theorem draw_presence (hp : m.provenance? = some p)
    (h : readAll? entry p.part.identity = some labels) (hvalue : p.value = .presence)
    {found : Option (List String)} (hfound : (readAll? entry p.extra).map (labels ++ ·) = found) :
    m.draw entry = Sample.presence m found := by
  unfold Metric.draw
  rw [hp, Option.bind_some, Provenance.sample?, p.labels?_eq h, hfound, hvalue]
  cases found <;> rfl

/-- A family with a status label draws the status, and whether it is the expected one. -/
theorem draw_status {part : Part} {path : List String} {expected : String}
    {status : Option String}
    (hp : m.provenance? = some ⟨part, [.status path], .expected path expected⟩)
    (h : readAll? entry part.identity = some labels)
    (hstatus : (entry.at? path).bind Json.text? = status) :
    m.draw entry = [⟨m, labels ++ [statusLabel status], statusValue status expected⟩] := by
  have hlabel : (LabelSource.status path).read? entry = some (statusLabel status) := by
    have hgiven : (LabelSource.status path).given? entry = status := hstatus
    unfold LabelSource.read?
    rw [hgiven]
    cases status <;> rfl
  have hlabels : readAll? entry [.status path] = some [statusLabel status] := by
    rw [readAll?, hlabel]
    rfl
  have hall := (Provenance.mk part [.status path] (.expected path expected)).labels?_eq h
  rw [hlabels] at hall
  rw [draw_eq hp hall, ValueSource.read?, hstatus]
  rfl

end

/-! ## Numbers of entries -/

section

variable {entry : Json} {part : Part} {path : List String}

/-- An integer that may be missing is drawn when it is there. -/
theorem draw_integer {value : Option Int64} (hp : m.provenance? = some ⟨part, [], .number path⟩)
    (h : readAll? entry part.identity = some labels)
    (hvalue : entry.at? path = some (toJson value)) :
    m.draw entry = Sample.observeInt m labels value := by
  rw [draw_value hp h rfl, ValueSource.read?, hvalue, Option.bind_some, Document.double?_toJson_int]
  rfl

/-- An integer in a document that may be absent. -/
theorem draw_integer_behind {α : Type} [Document α] {name : String} {o : Option α}
    {field : α → Option Int64} (hp : m.provenance? = some ⟨part, [], .number path⟩)
    (h : readAll? entry part.identity = some labels)
    (hpath : entry.at? path = (toJson o).at? [name])
    (hfield : ∀ a, (toJson a).at? [name] = some (toJson (field a))) :
    m.draw entry = o.toList.flatMap fun a => Sample.observeInt m labels (field a) := by
  rw [draw_value hp h rfl, ValueSource.read?, hpath, Document.at?_toJson_option]
  cases o with
  | none => rfl
  | some a =>
    rw [Option.bind_some, hfield, Option.bind_some, Document.double?_toJson_int]
    exact (List.append_nil _).symm

/-- A flag is drawn as one or zero, also when it is missing. -/
theorem draw_flag {value : Option Bool} (hp : m.provenance? = some ⟨part, [], .flag path⟩)
    (h : readAll? entry part.identity = some labels)
    (hvalue : entry.at? path = some (toJson value)) :
    m.draw entry = [⟨m, labels, flagValue value⟩] := by
  rw [draw_value hp h rfl, ValueSource.read?, hvalue, Option.bind_some, Document.bool?_toJson]
  rfl

/-- A family without a status label draws whether the status is the expected one. -/
theorem draw_expected {text : String} {value : Option String}
    (hp : m.provenance? = some ⟨part, [], .expected path text⟩)
    (h : readAll? entry part.identity = some labels)
    (hvalue : (entry.at? path).bind Json.text? = value) :
    m.draw entry = [⟨m, labels, statusValue value text⟩] := by
  rw [draw_value hp h rfl, ValueSource.read?, hvalue]
  rfl

/-- A list is drawn as the number of its items. -/
theorem draw_count {α : Type} [Document α] {items : List α}
    (hp : m.provenance? = some ⟨part, [], .count path⟩)
    (h : readAll? entry part.identity = some labels)
    (hvalue : entry.at? path = some (toJson items)) :
    m.draw entry = [Sample.count m labels items.length] := by
  rw [draw_value hp h rfl, ValueSource.read?, hvalue, Option.bind_some, Document.items?_toJson,
    Option.map_some, List.length_map]
  rfl

/-- One more label. -/
theorem draw_presence_of_text {name : String} {value : Option String}
    (hp : m.provenance? = some ⟨part, [.plain name path], .presence⟩)
    (h : readAll? entry part.identity = some labels)
    (hvalue : entry.at? path = some (toJson value)) :
    m.draw entry = Sample.presence m (value.map fun text => labels ++ [text]) := by
  refine draw_presence hp h rfl ?_
  have hgiven : (LabelSource.plain name path).given? entry = value := by
    unfold LabelSource.given?
    rw [show (LabelSource.plain name path).path = path from rfl, hvalue]
    exact Document.text?_toJson value
  rw [readAll?, LabelSource.read?, hgiven]
  cases value <;> rfl

end

/-- The traffic families of a carrier draw the counters that stand in its statistics. -/
theorem draw_traffic {c : Carrier} {entry : Json} {counters : Option TrafficCounters}
    (h : readAll? entry c.part.identity = some labels)
    (hcounters : ∀ name, entry.at? ["statistics", "statistics", name] =
      (toJson counters).at? [name]) :
    TrafficMetric.all.flatMap (fun t => (Metric.traffic c t).draw entry) =
      counters.toList.flatMap (TrafficCounters.samples c labels) := by
  -- one family after the other, each from the counter of its name
  have hdraw : ∀ t : TrafficMetric, (Metric.traffic c t).draw entry =
      Sample.observe (.traffic c t) labels (counters.bind t.read) := by
    intro t
    rw [draw_value rfl h rfl]
    refine congrArg _ ?_
    rw [ValueSource.read?, hcounters, Document.at?_toJson_option]
    cases counters with
    | none => rfl
    | some counters =>
      cases t with
      | httpRequestRate | inPacketRate | outPacketRate | inByteRate | outByteRate | sessionRate =>
        exact Document.double?_toJson _
      | _ => exact Document.double?_toJson_int _
  rw [List.flatMap_congr fun t _ => hdraw t]
  cases counters with
  | none => rfl
  | some counters => exact (List.append_nil _).symm

/-- The session families draw the counters of both layers. -/
theorem draw_sessions {entry : Json} {counters : Option SessionCounters}
    (h : readAll? entry (Part.identity .balancer) = some labels)
    (hcounters : ∀ name, entry.at? ["statistics", "statistics", name] =
      (toJson counters).at? [name]) :
    [Layer.l4, Layer.l7].flatMap (fun layer =>
        SessionMetric.all.flatMap fun c => (Metric.session layer c).draw entry) =
      counters.toList.flatMap (SessionCounters.samples labels) := by
  have hdraw : ∀ (layer : Layer) (c : SessionMetric), (Metric.session layer c).draw entry =
      Sample.observe (.session layer c) labels (counters.bind fun s => c.read s layer) := by
    intro layer c
    rw [draw_value rfl h rfl]
    refine congrArg _ ?_
    rw [ValueSource.read?, hcounters, Document.at?_toJson_option]
    cases counters with
    | none => rfl
    | some counters =>
      cases layer <;> cases c with
      | rate => exact Document.double?_toJson _
      | _ => exact Document.double?_toJson_int _
  simp only [hdraw]
  cases counters with
  | none => rfl
  | some counters => exact (List.append_nil _).symm

/-! ## Samples of records -/

theorem readAll?_alarm {entry : Json} {alarm : Option Alarm}
    (halarm : ∀ name, entry.at? ["status", "alarm", name] = (toJson alarm).at? [name]) :
    (readAll? entry LabelSource.alarm).map (labels ++ ·) = (do
      let alarm ← alarm
      let errorId ← alarm.errorId
      let message ← alarm.message
      return labels ++ [errorId, message]) := by
  simp only [LabelSource.alarm, readAll?, LabelSource.read?, LabelSource.given?, LabelSource.plain,
    halarm]
  obtain _ | ⟨errorId, message⟩ := alarm
  · rfl
  · cases errorId <;> cases message <;> rfl

/-- The families about the parts of a kind. -/
def Part.metrics (part : Part) : List Metric :=
  Metric.all.filter fun m => m.provenance?.any fun p => p.part = part

/-- The samples of a virtual server are drawn from its entry. -/
theorem VirtualServerRecord.samples_eq (v : VirtualServerRecord) :
    v.samples = drawAll (Part.metrics .virtualServer) v.entry := by
  have hlabels := readAll?_virtualServer v
  have hmetrics : Part.metrics .virtualServer = VirtualServerMetric.all.map .virtualServer ++
      TrafficMetric.all.map (.traffic .virtualServer) := by decide
  -- each family by the way it is drawn
  have henable : (Metric.virtualServer .enable).draw v.entry =
      [⟨.virtualServer .enable, v.labels, flagValue v.settings.enabled⟩] :=
    draw_flag rfl hlabels rfl
  have hstatus : (Metric.virtualServer .status).draw v.entry =
      [upSample (.virtualServer .status) v.labels v.status.status] :=
    draw_status rfl hlabels (Document.text?_toJson _)
  have hinfo : (Metric.virtualServer .info).draw v.entry =
      Sample.presence (.virtualServer .info) (do
        let address ← v.settings.address
        let pool ← v.settings.poolPath
        let balancer ← v.settings.balancerPath
        return v.labels ++ [address, lastSegment pool, lastSegment balancer]) := by
    refine draw_presence rfl hlabels rfl ?_
    generalize v.labels = labels
    obtain ⟨⟨id, name, enabled, address, pool, balancer⟩, status, statistics⟩ := v
    cases address <;> cases pool <;> cases balancer <;> rfl
  have halarm : (Metric.virtualServer .alarm).draw v.entry =
      alarmSamples (.virtualServer .alarm) v.labels v.status.alarm :=
    draw_presence rfl hlabels rfl (readAll?_alarm fun _ => rfl)
  have hsourceIp : (Metric.virtualServer .sourceIp).draw v.entry =
      v.statistics.traffic.toList.flatMap fun t =>
        Sample.observeInt (.virtualServer .sourceIp) v.labels t.sourceIpEntries :=
    draw_integer_behind rfl hlabels rfl fun _ => rfl
  have htraffic :
      TrafficMetric.all.flatMap (fun t => (Metric.traffic .virtualServer t).draw v.entry) =
        v.statistics.traffic.toList.flatMap (TrafficCounters.samples .virtualServer v.labels) :=
    draw_traffic (c := .virtualServer) hlabels fun _ => rfl
  rw [hmetrics, drawAll, List.flatMap_append, List.flatMap_map, List.flatMap_map, htraffic]
  simp only [VirtualServerMetric.all, List.flatMap_cons, List.flatMap_nil, henable, hstatus, hinfo,
    halarm, hsourceIp]
  unfold VirtualServerRecord.samples
  cases v.statistics.traffic with
  | none => simp
  | some t => simp

/-- The samples of a member are drawn from its entry in the pool. -/
theorem MemberRecord.samples_eq (p : PoolRecord) (r : MemberRecord) :
    r.samples p.labels = drawAll (Part.metrics .member) (r.entry p) := by
  have hlabels := readAll?_member p r
  have hmetrics : Part.metrics .member =
      MemberMetric.all.map .member ++ TrafficMetric.all.map (.traffic .member) := by decide
  have hstatus : (Metric.member .status).draw (r.entry p) = [upSample (.member .status)
      (p.labels ++ [r.status.address.getD "", r.status.port.getD ""]) r.status.status] :=
    draw_status rfl hlabels (Document.text?_toJson _)
  have hfailure : (Metric.member .failure).draw (r.entry p) =
      Sample.presence (.member .failure) (r.status.failureCause.map fun cause =>
        p.labels ++ [r.status.address.getD "", r.status.port.getD ""] ++ [cause]) :=
    draw_presence_of_text rfl hlabels rfl
  have htraffic : TrafficMetric.all.flatMap (fun t => (Metric.traffic .member t).draw (r.entry p)) =
      r.statistics.traffic.toList.flatMap (TrafficCounters.samples .member
        (p.labels ++ [r.status.address.getD "", r.status.port.getD ""])) :=
    draw_traffic (c := .member) hlabels fun _ => rfl
  rw [hmetrics, drawAll, List.flatMap_append, List.flatMap_map, List.flatMap_map, htraffic]
  simp only [MemberMetric.all, List.flatMap_cons, List.flatMap_nil, hstatus, hfailure,
    List.append_nil]
  rfl

/-- The samples of a pool are drawn from its entry and those of its members. -/
theorem PoolRecord.samples_eq (p : PoolRecord) :
    p.samples = drawAll (Part.metrics .pool) p.entry ++
      (p.entries .member).flatMap (drawAll (Part.metrics .member)) := by
  have hlabels := readAll?_pool p
  have hmetrics : Part.metrics .pool =
      PoolMetric.all.map .pool ++ TrafficMetric.all.map (.traffic .pool) := by decide
  have hstatus : (Metric.pool .status).draw p.entry =
      [upSample (.pool .status) p.labels p.status.status] :=
    draw_status rfl hlabels (Document.text?_toJson _)
  have hinfo : (Metric.pool .info).draw p.entry =
      Sample.presence (.pool .info) (do
        let port ← p.settings.memberGroup.bind (·.port)
        let algorithm ← p.settings.algorithm
        return p.labels ++ [toString port.toInt, algorithm]) := by
    refine draw_presence rfl hlabels rfl ?_
    generalize p.labels = labels
    obtain ⟨⟨id, name, algorithm, least, group⟩, status, statistics, members⟩ := p
    obtain _ | ⟨path, port⟩ := group
    · rfl
    · cases port <;> cases algorithm <;> rfl
  have halarm : (Metric.pool .alarm).draw p.entry =
      alarmSamples (.pool .alarm) p.labels p.status.alarm :=
    draw_presence rfl hlabels rfl (readAll?_alarm fun _ => rfl)
  have hmember : (Metric.pool .member).draw p.entry =
      [Sample.count (.pool .member) p.labels p.status.members.length] :=
    draw_count rfl hlabels rfl
  have hleast : (Metric.pool .memberMin).draw p.entry =
      Sample.observeInt (.pool .memberMin) p.labels p.settings.minActiveMembers :=
    draw_integer rfl hlabels rfl
  have htraffic : TrafficMetric.all.flatMap (fun t => (Metric.traffic .pool t).draw p.entry) =
      p.statistics.traffic.toList.flatMap (TrafficCounters.samples .pool p.labels) :=
    draw_traffic (c := .pool) hlabels fun _ => rfl
  -- the members are drawn from entries of their own
  have hmembers : (p.entries .member).flatMap (drawAll (Part.metrics .member)) =
      p.members.flatMap (MemberRecord.samples p.labels) := by
    rw [PoolRecord.entries, List.flatMap_map]
    exact List.flatMap_congr fun r _ => (MemberRecord.samples_eq p r).symm
  rw [hmetrics, drawAll, List.flatMap_append, List.flatMap_map, List.flatMap_map, htraffic]
  simp only [PoolMetric.all, List.flatMap_cons, List.flatMap_nil, hstatus, hinfo, halarm, hmember,
    hleast, hmembers]
  unfold PoolRecord.samples
  simp only [List.append_assoc, List.append_nil]

theorem BalancerRecord.ownSamples_eq (b : BalancerRecord) :
    b.ownSamples = drawAll (Part.metrics .balancer) b.entry := by
  have hlabels := readAll?_balancer b
  have hmetrics : Part.metrics .balancer = BalancerMetric.all.map .balancer ++
      [Layer.l4, Layer.l7].flatMap fun layer => SessionMetric.all.map (.session layer) := by decide
  -- each family by the way it is drawn
  have henable : (Metric.balancer .enable).draw b.entry =
      [⟨.balancer .enable, b.labels, flagValue b.settings.enabled⟩] :=
    draw_flag rfl hlabels rfl
  have hstatus : (Metric.balancer .status).draw b.entry =
      [upSample (.balancer .status) b.labels b.status.status] :=
    draw_status rfl hlabels (Document.text?_toJson _)
  have hinfo : (Metric.balancer .info).draw b.entry =
      Sample.presence (.balancer .info) (b.settings.size.map fun size => b.labels ++ [size]) :=
    draw_presence_of_text rfl hlabels rfl
  have hcpu : (Metric.balancer .cpu).draw b.entry =
      Sample.observeInt (.balancer .cpu) b.labels b.status.cpuUsage := draw_integer rfl hlabels rfl
  have hmem : (Metric.balancer .mem).draw b.entry =
      Sample.observeInt (.balancer .mem) b.labels b.status.memoryUsage :=
    draw_integer rfl hlabels rfl
  have herror : (Metric.balancer .error).draw b.entry = Sample.presence (.balancer .error)
      (b.status.errorMessage.map fun message => b.labels ++ [message]) :=
    draw_presence_of_text rfl hlabels rfl
  have halarm : (Metric.balancer .alarm).draw b.entry =
      alarmSamples (.balancer .alarm) b.labels b.status.alarm :=
    draw_presence rfl hlabels rfl (readAll?_alarm fun _ => rfl)
  have hservers : (Metric.balancer .virtualServer).draw b.entry =
      [Sample.count (.balancer .virtualServer) b.labels b.status.virtualServers.length] :=
    draw_count rfl hlabels rfl
  have hcounters : ∀ name, b.entry.at? ["statistics", "statistics", name] =
      (toJson b.statistics.sessions).at? [name] := fun _ => rfl
  have hsessions := draw_sessions hlabels hcounters
  rw [hmetrics, drawAll, List.flatMap_append, List.flatMap_map, List.flatMap_assoc]
  simp only [List.flatMap_map, hsessions]
  simp only [BalancerMetric.all, List.flatMap_cons, List.flatMap_nil, henable, hstatus, hinfo, hcpu,
    hmem, herror, halarm, hservers]
  unfold BalancerRecord.ownSamples
  simp only [List.append_assoc, List.append_nil, List.cons_append, List.nil_append]

/-- The samples of a gateway are drawn from its entry and those of its edge nodes. -/
theorem GatewayRecord.samples_eq (kind : GatewayKind) (g : GatewayRecord) :
    g.samples kind =
      drawAll ([.info, .status, .failure, .transport].map (.gateway kind)) g.entry ++
        (g.entries .edge).flatMap (drawAll [.gateway kind .edge]) := by
  have hlabels := readAll?_gateway g
  have hinfo : (Metric.gateway kind .info).draw g.entry =
      Sample.presence (.gateway kind .info)
        (g.settings.haMode.map fun mode => g.labels ++ [mode]) :=
    draw_presence_of_text rfl hlabels rfl
  have hstatus : (Metric.gateway kind .status).draw g.entry =
      [⟨.gateway kind .status, g.labels, statusValue g.state.state realizedState⟩] :=
    draw_expected rfl hlabels (Document.text?_toJson _)
  have hfailure : (Metric.gateway kind .failure).draw g.entry =
      Sample.presence (.gateway kind .failure) (do
        let code ← g.state.failureCode
        let message ← g.state.failureMessage
        return g.labels ++ [toString code.toInt, message]) := by
    refine draw_presence rfl hlabels rfl ?_
    generalize g.labels = labels
    obtain ⟨settings, ⟨id, state, code, message, details⟩, status⟩ := g
    cases code <;> cases message <;> rfl
  have htransport : (Metric.gateway kind .transport).draw g.entry =
      [Sample.count (.gateway kind .transport) g.labels g.state.details.length] :=
    draw_count rfl hlabels rfl
  have hedge : ∀ e : EdgeNode, drawAll [.gateway kind .edge] (e.entry g) =
      edgeSamples kind g.labels e := by
    intro e
    refine (List.append_nil _).trans ?_
    refine draw_presence rfl (readAll?_edge g e) rfl ?_
    generalize g.labels = labels
    obtain ⟨path, id, status⟩ := e
    cases path <;> cases status <;> rfl
  unfold GatewayRecord.entries
  simp only [List.flatMap_map, hedge]
  simp only [drawAll, List.map_cons, List.map_nil, List.flatMap_cons, List.flatMap_nil, hinfo,
    hstatus, hfailure, htransport]
  unfold GatewayRecord.samples
  simp only [List.append_assoc, List.append_nil]

/-- The samples of the cluster are drawn from its status as it is. -/
theorem ClusterStatus.samples_eq (c : ClusterStatus) :
    c.samples = drawAll [.cluster .control, .cluster .management] (toJson c) := by
  have hcontrol : (Metric.cluster .control).draw (toJson c) = [⟨.cluster .control,
      [] ++ [statusLabel c.control.status], statusValue c.control.status stableStatus⟩] :=
    draw_status rfl rfl (Document.text?_toJson _)
  have hmanagement : (Metric.cluster .management).draw (toJson c) = [⟨.cluster .management,
      [] ++ [statusLabel c.management.status], statusValue c.management.status stableStatus⟩] :=
    draw_status rfl rfl (Document.text?_toJson _)
  simp only [drawAll, List.flatMap_cons, List.flatMap_nil, hcontrol, hmanagement]
  rfl

/-! ## Samples of nodes -/

theorem InterfaceRecord.samples_eq (n : NodeRecord) (i : InterfaceRecord) :
    i.samples n.labels =
      drawAll (.node .interface :: InterfaceMetric.all.map .interface) (i.entry n) := by
  have hlabels := readAll?_interface n i
  have hsettings : (Metric.node .interface).draw (i.entry n) =
      Sample.presence (.node .interface) (do
        let admin ← i.settings.adminStatus
        let link ← i.settings.linkStatus
        let mtu ← i.settings.mtu
        return n.labels ++ [i.settings.id] ++ [admin, link, toString mtu.toInt]) := by
    refine draw_presence rfl hlabels rfl ?_
    generalize n.labels = labels
    obtain ⟨⟨id, admin, link, mtu⟩, counters⟩ := i
    cases admin <;> cases link <;> cases mtu <;> rfl
  have hcounter : ∀ c : InterfaceMetric, (Metric.interface c).draw (i.entry n) =
      Sample.observeInt (.interface c) (n.labels ++ [i.settings.id]) (c.read i.counters) := by
    intro c
    refine draw_integer rfl hlabels ?_
    cases c <;> rfl
  rw [drawAll, List.flatMap_cons, List.flatMap_map, hsettings,
    List.flatMap_congr fun c _ => hcounter c]
  rfl

theorem FileSystem.samples_eq (n : NodeRecord) (f : FileSystem) :
    f.samples n.labels = drawAll [.node .fsTotal, .node .fsUsed] (f.entry n) := by
  have hlabels := readAll?_fileSystem n f
  have htotal : (Metric.node .fsTotal).draw (f.entry n) = Sample.observeInt (.node .fsTotal)
      (n.labels ++ [f.kind.getD "", f.mount.getD ""]) f.total := draw_integer rfl hlabels rfl
  have hused : (Metric.node .fsUsed).draw (f.entry n) = Sample.observeInt (.node .fsUsed)
      (n.labels ++ [f.kind.getD "", f.mount.getD ""]) f.used := draw_integer rfl hlabels rfl
  simp only [drawAll, List.flatMap_cons, List.flatMap_nil, htotal, hused, List.append_nil]
  rfl

/-- The three loads of a node are drawn from the places of one list. -/
theorem draw_loads (n : NodeRecord) :
    drawAll [.node .load1, .node .load5, .node .load15] n.entry =
      n.status.system.toList.flatMap fun u => loadSamples n.labels u.loadAverage := by
  have hdraw : ∀ (m : NodeMetric) (place : Fin 3),
      (Metric.node m).provenance? =
        some ⟨.node, [], .ofThree place ["status", "system_status", "load_average"]⟩ →
      (Metric.node m).draw n.entry = Sample.observe (.node m) n.labels
        (n.status.system.bind fun u =>
          if u.loadAverage.length = 3 then u.loadAverage[place]? else none) := by
    intro m place hp
    have hpath : n.entry.at? ["status", "system_status", "load_average"] =
        (toJson n.status.system).at? ["load_average"] := rfl
    rw [draw_value hp (readAll?_node n) rfl, ValueSource.read?, hpath, Document.at?_toJson_option]
    refine congrArg _ ?_
    cases n.status.system with
    | none => rfl
    | some u =>
      have hitems : ((toJson u).at? ["load_average"]).bind Json.items? =
          some (u.loadAverage.map toJson) := Document.items?_toJson u.loadAverage
      have hread : ∀ load : Option Double, (load.map toJson).bind Json.double? = load := by
        rintro (_ | load) <;> rfl
      rw [Option.bind_some, hitems, Option.bind_some]
      simp only [Option.bind_eq_bind, Option.bind_some, List.length_map, Fin.getElem?_fin,
        List.getElem?_map, hread]
  simp only [drawAll, List.flatMap_cons, List.flatMap_nil, hdraw .load1 0 rfl, hdraw .load5 1 rfl,
    hdraw .load15 2 rfl]
  cases n.status.system with
  | none => rfl
  | some u =>
    rw [Option.toList_some, List.flatMap_singleton]
    -- a list of another length shows no load
    by_cases hlength : u.loadAverage.length = 3
    · obtain ⟨load1, load5, load15, hloads⟩ := List.length_eq_three.1 hlength
      simp only [Option.bind_some, hloads]
      rfl
    · simp only [Option.bind_some, if_neg hlength]
      unfold loadSamples
      split
      · next hloads => exact absurd (congrArg List.length hloads) hlength
      · rfl

/-- The samples of a node are drawn from its entries, except for those of its certificates. -/
theorem NodeRecord.samples_eq (n : NodeRecord) :
    n.samples =
      drawAll [.node .status, .node .cpu] n.entry ++
        (n.entries .fileSystem).flatMap (drawAll [.node .fsTotal, .node .fsUsed]) ++
        drawAll [.node .load1, .node .load5, .node .load15] n.entry ++
        drawAll [.node .memTotal, .node .memUsed, .node .memCache, .node .uptime, .node .version]
          n.entry ++
        n.chains.flatMap (ListenerChain.samples n.labels) ++
        (n.entries .interface).flatMap
          (drawAll (.node .interface :: InterfaceMetric.all.map .interface)) := by
  have hlabels := readAll?_node n
  have hstatus : (Metric.node .status).draw n.entry =
      [⟨.node .status, n.labels, statusValue n.membership connectedStatus⟩] := by
    refine draw_expected rfl hlabels ?_
    obtain ⟨settings, ⟨membership, system, version⟩, interfaces⟩ := n
    cases membership with
    | none => rfl
    | some membership => exact Document.text?_toJson membership.status
  -- numbers behind a member that may be absent, all in one way
  have hsystem : ∀ (m : NodeMetric) (name : String) (field : SystemUsage → Option Int64),
      (Metric.node m).provenance? =
        some ⟨.node, [], .number ["status", "system_status", name]⟩ →
      (∀ u, (toJson u).at? [name] = some (toJson (field u))) →
      (Metric.node m).draw n.entry =
        n.status.system.toList.flatMap fun u => Sample.observeInt (.node m) n.labels (field u) :=
    fun m name field hp hfield => draw_integer_behind hp hlabels rfl hfield
  have hcpu := hsystem .cpu _ (·.cpuCores) rfl fun _ => rfl
  have htotal := hsystem .memTotal _ (·.memoryTotal) rfl fun _ => rfl
  have hused := hsystem .memUsed _ (·.memoryUsed) rfl fun _ => rfl
  have hcache := hsystem .memCache _ (·.memoryCache) rfl fun _ => rfl
  have huptime := hsystem .uptime _ (·.uptime) rfl fun _ => rfl
  have hversion : (Metric.node .version).draw n.entry =
      Sample.presence (.node .version)
        (n.status.version.map fun version => n.labels ++ [version]) :=
    draw_presence_of_text rfl hlabels rfl
  have hloads := draw_loads n
  have hfiles : ∀ f : FileSystem, drawAll [.node .fsTotal, .node .fsUsed] (f.entry n) =
      f.samples n.labels := fun f => (f.samples_eq n).symm
  have hinterfaces : ∀ i : InterfaceRecord,
      drawAll (.node .interface :: InterfaceMetric.all.map .interface) (i.entry n) =
        i.samples n.labels := fun i => (i.samples_eq n).symm
  rw [hloads]
  unfold NodeRecord.entries
  simp only [List.flatMap_map, hfiles, hinterfaces]
  simp only [drawAll, List.flatMap_cons, List.flatMap_nil, hstatus, hcpu, htotal, hused, hcache,
    huptime, hversion]
  unfold NodeRecord.samples
  cases n.status.system with
  | none => simp
  | some u => simp [SystemUsage.samples]

end FabricGauges
