import FabricGauges.Proofs.Metric.Meaning

/-!
# Samples of a resource

Every sample of a record is of a family about its resource. Its labels begin with those that
identify the resource and are as many as the family has label names, and its value says what the
values of the family say. The records are gone through once, and what else is known about their
samples follows: publishing a stage fills the families that it cleared and no others, and every
series can be written with its names.
-/

namespace FabricGauges

/-! ## Labels -/

/-- These labels, if they are known, begin with others. -/
def Extending (labels : List String) (found : Option (List String)) : Prop :=
  ∀ ls, found = some ls → labels <+: ls

/-- These labels, if they are known, are those of a series of the family: they begin with the labels
that identify a resource, and there is one for each label name. -/
structure Metric.Takes (m : Metric) (identity : List String) (found : Option (List String)) :
    Prop where
  extending : Extending identity found
  length_eq : ∀ ls, found = some ls → ls.length = m.family.labels.length

namespace Metric.Takes

variable {α : Type} {m : Metric} {identity labels : List String}

/-- Labels that begin with the identity and are as many as the family has names are taken. -/
theorem of_begins (h : identity <+: labels) (hlength : labels.length = m.family.labels.length) :
    m.Takes identity (some labels) := by
  constructor
  · intro ls hls
    obtain rfl := Option.some.inj hls
    exact h
  · intro ls hls
    obtain rfl := Option.some.inj hls
    exact hlength

theorem self (h : identity.length = m.family.labels.length) : m.Takes identity (some identity) :=
  of_begins List.prefix_rfl h

/-- The identity with further labels behind it is taken if the number is right. -/
theorem of_append (extra : List String)
    (h : identity.length + extra.length = m.family.labels.length) :
    m.Takes identity (some (identity ++ extra)) := by
  refine of_begins (List.prefix_append _ _) ?_
  rw [List.length_append, h]

theorem none : m.Takes identity Option.none := ⟨nofun, nofun⟩

theorem bind {o : Option α} {f : α → Option (List String)} (h : ∀ a, m.Takes identity (f a)) :
    m.Takes identity (o >>= f) := by
  cases o with
  | none => exact none
  | some a => exact h a

theorem map (o : Option α) (extra : α → List String)
    (h : ∀ a, identity.length + (extra a).length = m.family.labels.length) :
    m.Takes identity (o.map fun a => identity ++ extra a) := by
  cases o with
  | none => exact none
  | some a => exact of_append _ (h a)

end Metric.Takes

/-! ## Samples -/

/-- A sample of a family about a resource, with the labels that identify the resource and a value
that says what it is meant to say. -/
structure Sample.IsOf (resource : Resource) (identity : List String) (s : Sample) : Prop where
  resource_eq : s.metric.resource = resource
  takes : s.metric.Takes identity (some s.labels)
  coherent : s.Coherent

/-- A sample of a family of the stage, with a value for each label name of the family. -/
structure Sample.Fits (stage : Stage) (s : Sample) : Prop where
  stage_eq : s.metric.stage = stage
  length_labels : s.labels.length = s.metric.family.labels.length

/-- All samples of a list fit the stage. -/
def Fitting (stage : Stage) (samples : List Sample) : Prop := ∀ s ∈ samples, s.Fits stage

namespace Sample.IsOf

variable {resource : Resource} {identity : List String} {s : Sample}

/-- The labels of a sample of a resource begin with the identity of the resource. -/
theorem identity_prefix (h : s.IsOf resource identity) : identity <+: s.labels :=
  h.takes.extending _ rfl

/-- A sample of a resource fits into the stage of the resource. -/
theorem fits (h : s.IsOf resource identity) : s.Fits resource.stage :=
  ⟨congrArg Resource.stage h.resource_eq, h.takes.length_eq _ rfl⟩

end Sample.IsOf

/-- All samples of a list are of a resource that is identified by these labels. -/
def AllOf (resource : Resource) (identity : List String) (samples : List Sample) : Prop :=
  ∀ s ∈ samples, s.IsOf resource identity

namespace AllOf

variable {resource : Resource} {identity labels : List String} {samples samples' : List Sample}
  {m : Metric}

theorem nil : AllOf resource identity [] := List.forall_mem_nil _

theorem singleton {s : Sample} (h : s.IsOf resource identity) : AllOf resource identity [s] :=
  List.forall_mem_singleton.2 h

theorem cons {s : Sample} (hs : AllOf resource identity [s])
    (h : AllOf resource identity samples) : AllOf resource identity (s :: samples) :=
  List.forall_mem_cons.2 ⟨hs s List.mem_cons_self, h⟩

theorem append (h : AllOf resource identity samples) (h' : AllOf resource identity samples') :
    AllOf resource identity (samples ++ samples') := List.forall_mem_append.2 ⟨h, h'⟩

/-- Samples that are gathered from many things are of the resource if those of each are. -/
theorem flatMap {α : Type} {as : List α} {f : α → List Sample}
    (h : ∀ a, AllOf resource identity (f a)) : AllOf resource identity (as.flatMap f) := by
  intro s hs
  obtain ⟨a, -, hs⟩ := List.mem_flatMap.1 hs
  exact h a s hs

/-- What is identified by more labels begins with fewer of them. -/
theorem of_begins (h : AllOf resource labels samples) (hlabels : identity <+: labels) :
    AllOf resource identity samples := by
  intro s hs
  obtain ⟨hresource, htakes, hcoherent⟩ := h s hs
  exact ⟨hresource, .of_begins (hlabels.trans (htakes.extending _ rfl)) (htakes.length_eq _ rfl),
    hcoherent⟩

/-! ## Single samples -/

/-- A measured value has nothing to keep but its labels. -/
theorem measure {value : Double} (hm : m.resource = resource) (hmeaning : m.meaning = .measure)
    (hlabels : m.Takes identity (some labels)) : AllOf resource identity [⟨m, labels, value⟩] :=
  singleton ⟨hm, hlabels, .of_measure hmeaning⟩

/-- A value that may be missing gives a sample of the resource or none. -/
theorem observe {value : Option Double} (hm : m.resource = resource)
    (hmeaning : m.meaning = .measure) (hlabels : m.Takes identity (some labels)) :
    AllOf resource identity (Sample.observe m labels value) := by
  cases value with
  | none => exact nil
  | some v => exact measure hm hmeaning hlabels

theorem observeInt {value : Option Int64} (hm : m.resource = resource)
    (hmeaning : m.meaning = .measure) (hlabels : m.Takes identity (some labels)) :
    AllOf resource identity (Sample.observeInt m labels value) := observe hm hmeaning hlabels

/-- A sample of presence is one, and there is none where a label is missing. -/
theorem presence {found : Option (List String)} (hm : m.resource = resource)
    (hmeaning : m.meaning = .presence) (hfound : m.Takes identity found) :
    AllOf resource identity (Sample.presence m found) := by
  cases found with
  | none => exact nil
  | some ls => exact singleton ⟨hm, hfound, .of_presence hmeaning rfl⟩

/-- A flag is zero or one. -/
theorem flag {value : Double} (hm : m.resource = resource) (hmeaning : m.meaning = .flag)
    (hlabels : m.Takes identity (some labels)) (hvalue : value = .zero ∨ value = .one) :
    AllOf resource identity [⟨m, labels, value⟩] :=
  singleton ⟨hm, hlabels, .of_flag hmeaning hvalue⟩

/-- A count is a natural number. -/
theorem count {n : Nat} (hm : m.resource = resource) (hmeaning : m.meaning = .count)
    (hlabels : m.Takes identity (some labels)) :
    AllOf resource identity [Sample.count m labels n] :=
  singleton ⟨hm, hlabels, .of_count hmeaning (Double.isNatural_ofNat n)⟩

/-- A status sample says whether the status in its last label is the expected one. -/
theorem status {expected : String} {status : Option String} (names : List String)
    (hm : m.resource = resource) (hmeaning : m.meaning = .status expected)
    (hexpected : expected ≠ unknownStatus) (hnames : m.family.labels = names ++ ["status"])
    (hlength : names.length = identity.length) (hname : "status" ∉ names) :
    AllOf resource identity
      [⟨m, identity ++ [statusLabel status], statusValue status expected⟩] := by
  have hlabels : m.Takes identity (some (identity ++ [statusLabel status])) := by
    refine .of_append _ ?_
    rw [hnames, List.length_append, hlength]
    rfl
  exact singleton ⟨hm, hlabels, .of_status hmeaning hexpected hnames hlength hname status⟩

/-- A status sample whose expected status is that of being up. -/
theorem up {status : Option String} (names : List String) (hm : m.resource = resource)
    (hmeaning : m.meaning = .status upStatus) (hnames : m.family.labels = names ++ ["status"])
    (hlength : names.length = identity.length) (hname : "status" ∉ names) :
    AllOf resource identity [upSample m identity status] :=
  AllOf.status names hm hmeaning (by decide) hnames hlength hname

/-- An alarm shows its two texts behind the identity. -/
theorem alarm {a : Option Alarm} (hm : m.resource = resource) (hmeaning : m.meaning = .presence)
    (hlength : identity.length + 2 = m.family.labels.length) :
    AllOf resource identity (alarmSamples m identity a) :=
  presence hm hmeaning (.bind fun _ => .bind fun _ => .bind fun _ => .of_append _ hlength)

/-- The traffic counters of a carrier are of the resource that carries them. -/
theorem traffic {c : Carrier} {t : TrafficCounters}
    (hc : ∀ m, (Metric.traffic c m).resource = resource)
    (hlength : identity.length = c.labels.length) :
    AllOf resource identity (t.samples c identity) :=
  flatMap fun m => observe (hc m) rfl (.self hlength)

/-! ## The cluster and its nodes -/

/-- The cluster has no identity beside itself. -/
theorem cluster (c : ClusterStatus) : AllOf .cluster [] c.samples := by
  have hstable : ∀ (m : ClusterMetric) (status : Option String), AllOf .cluster []
      [⟨.cluster m, [] ++ [statusLabel status], statusValue status stableStatus⟩] := by
    intro m status
    have hlabels : (Metric.cluster m).family.labels = [] ++ ["status"] := by cases m <;> rfl
    exact AllOf.status [] rfl rfl (by decide) hlabels rfl List.not_mem_nil
  exact append (hstable .control _) (hstable .management _)

/-- The usage of a node is told under the labels of the node. -/
theorem systemUsage (n : NodeRecord) (u : SystemUsage) :
    AllOf .node n.labels (u.samples n.labels) := by
  refine append (append (append (append (append (append ?_ ?_) ?_) ?_) ?_) ?_) ?_
  · exact observeInt rfl rfl (.self rfl)
  · refine flatMap fun f => append ?_ ?_
    · exact observeInt rfl rfl (.of_append _ rfl)
    · exact observeInt rfl rfl (.of_append _ rfl)
  · unfold loadSamples
    split
    · exact cons (measure rfl rfl (.self rfl))
        (cons (measure rfl rfl (.self rfl)) (measure rfl rfl (.self rfl)))
    · exact nil
  · exact observeInt rfl rfl (.self rfl)
  · exact observeInt rfl rfl (.self rfl)
  · exact observeInt rfl rfl (.self rfl)
  · exact observeInt rfl rfl (.self rfl)

/-- So are the interfaces of a node. -/
theorem interface (n : NodeRecord) (i : InterfaceRecord) :
    AllOf .node n.labels (i.samples n.labels) := by
  refine of_begins (append ?_ ?_) (List.prefix_append n.labels [i.settings.id])
  · exact presence rfl rfl (.bind fun _ => .bind fun _ => .bind fun _ => .of_append _ rfl)
  · exact flatMap fun m => observeInt rfl rfl (.self rfl)

/-- So are the certificates of its listeners. -/
theorem listenerChain (n : NodeRecord) (c : ListenerChain) :
    AllOf .node n.labels (c.samples n.labels) := by
  intro s hs
  obtain ⟨e, -, rfl⟩ := List.mem_map.1 hs
  exact ⟨rfl, .of_append _ rfl, .of_measure rfl⟩

/-- All samples of a node are told under its labels. -/
theorem node (n : NodeRecord) : AllOf .node n.labels n.samples := by
  refine append (append (append (append ?_ ?_) ?_) ?_) ?_
  · exact flag rfl rfl (.self rfl) (statusValue_zero_or_one _ _)
  · exact flatMap fun u => systemUsage n u
  · exact presence rfl rfl (.map _ _ fun _ => rfl)
  · exact flatMap fun c => listenerChain n c
  · exact flatMap fun i => interface n i

/-! ## Load balancers, virtual servers and pools -/

/-- All samples of a virtual server are told under its labels. -/
theorem virtualServer (v : VirtualServerRecord) : AllOf .virtualServer v.labels v.samples := by
  refine append (append (append (cons ?_ ?_) ?_) ?_) ?_
  · exact flag rfl rfl (.self rfl) (flagValue_zero_or_one _)
  · exact up ["name", "id"] rfl rfl rfl rfl (by decide)
  · exact presence rfl rfl (.bind fun _ => .bind fun _ => .bind fun _ => .of_append _ rfl)
  · exact alarm rfl rfl rfl
  · refine flatMap fun t => append ?_ (traffic (fun _ => rfl) rfl)
    exact observeInt rfl rfl (.self rfl)

/-- The samples of a pool member are of its pool. -/
theorem member (p : PoolRecord) (r : MemberRecord) :
    AllOf .pool p.labels (r.samples p.labels) := by
  let address := [r.status.address.getD "", r.status.port.getD ""]
  refine of_begins (append (append ?_ ?_) ?_) (List.prefix_append p.labels address)
  · exact up ["name", "id", "ip", "port"] rfl rfl rfl rfl (by decide)
  · exact presence rfl rfl (.map _ _ fun _ => rfl)
  · exact flatMap fun t => traffic (fun _ => rfl) rfl

/-- All samples of a pool and of its members begin with the labels of the pool. -/
theorem pool (p : PoolRecord) : AllOf .pool p.labels p.samples := by
  refine append (append (append (append (append (append ?_ ?_) ?_) ?_) ?_) ?_) ?_
  · exact up ["name", "id"] rfl rfl rfl rfl (by decide)
  · exact presence rfl rfl (.bind fun _ => .bind fun _ => .of_append _ rfl)
  · exact alarm rfl rfl rfl
  · exact count rfl rfl (.self rfl)
  · exact observeInt rfl rfl (.self rfl)
  · exact flatMap fun t => traffic (fun _ => rfl) rfl
  · exact flatMap fun r => member p r

/-- The samples of a load balancer itself are of the load balancer. -/
theorem ownBalancer (b : BalancerRecord) : AllOf .balancer b.labels b.ownSamples := by
  refine append (append (append (append (append (append (append (cons ?_ ?_) ?_) ?_) ?_) ?_) ?_) ?_)
    ?_
  · exact flag rfl rfl (.self rfl) (flagValue_zero_or_one _)
  · exact up ["name", "id"] rfl rfl rfl rfl (by decide)
  · exact presence rfl rfl (.map _ _ fun _ => rfl)
  · exact observeInt rfl rfl (.self rfl)
  · exact observeInt rfl rfl (.self rfl)
  · exact presence rfl rfl (.map _ _ fun _ => rfl)
  · exact alarm rfl rfl rfl
  · exact count rfl rfl (.self rfl)
  · exact flatMap fun s => flatMap fun _ => flatMap fun _ => observe rfl rfl (.self rfl)

/-! ## Gateways -/

/-- All samples of a gateway begin with its labels. -/
theorem gateway (kind : GatewayKind) (g : GatewayRecord) :
    AllOf (.gateway kind) g.labels (g.samples kind) := by
  refine append (append (append (append ?_ ?_) ?_) ?_) ?_
  · exact presence rfl rfl (.map _ _ fun _ => rfl)
  · exact flag rfl rfl (.self rfl) (statusValue_zero_or_one _ _)
  · exact presence rfl rfl (.bind fun _ => .bind fun _ => .of_append _ rfl)
  · exact count rfl rfl (.self rfl)
  · exact flatMap fun e => presence rfl rfl (.bind fun _ => .bind fun _ => .of_append _ rfl)

end AllOf

/-- The samples of a load balancer are of itself, of one of its virtual servers or of one of its
pools. -/
theorem BalancerRecord.exists_isOf {b : BalancerRecord} {s : Sample} (h : s ∈ b.samples) :
    ∃ resource identity, resource.stage = .balancers ∧ s.IsOf resource identity := by
  rw [samples, List.mem_append, List.mem_append] at h
  rcases h with (hs | hs) | hs
  · exact ⟨_, _, rfl, AllOf.ownBalancer b s hs⟩
  · obtain ⟨v, -, hs⟩ := List.mem_flatMap.1 hs
    exact ⟨_, _, rfl, AllOf.virtualServer v s hs⟩
  · obtain ⟨p, -, hs⟩ := List.mem_flatMap.1 hs
    exact ⟨_, _, rfl, AllOf.pool p s hs⟩

end FabricGauges
