import FabricGauges.Filter
import FabricGauges.Proofs.Metric.Identity

/-!
# What samples are about

The labels of a sample begin with those that identify its resource. A gateway and a virtual server
are identified by their name and identifier, which are what an allow-list looks at. So a series
shows by its labels that its resource has been accepted.
-/

namespace FabricGauges

/-! ## Names and values -/

/-- The first labels of a family belong to the first values of its series. -/
theorem mem_zip_of_prefix {names names' values values' : List String} {entry : String × String}
    (hnames : names <+: names') (hvalues : values <+: values')
    (hlength : names.length = values.length) (h : entry ∈ names.zip values) :
    entry ∈ names'.zip values' := by
  obtain ⟨later, rfl⟩ := hnames
  obtain ⟨later', rfl⟩ := hvalues
  rw [List.zip_append hlength]
  exact List.mem_append_left _ h

/-- The label names that identify a resource. -/
def Resource.names : Resource → List String
  | cluster => []
  | node => nodeLabels
  | balancer | virtualServer | pool => ["name", "id"]
  | gateway _ => ["id", "name"]

/-- The labels of every family begin with those that identify its resource. -/
theorem Metric.names_prefix (m : Metric) : m.resource.names <+: m.family.labels := by
  cases m with
  | cluster m => exact List.nil_prefix
  | interface m => exact List.prefix_append nodeLabels _
  | node m =>
    cases m with
    | fsTotal | fsUsed | version | certificates | interface => exact List.prefix_append nodeLabels _
    | _ => exact List.prefix_rfl
  | balancer m | virtualServer m | pool m => exact List.prefix_append ["name", "id"] _
  | member m => exact List.prefix_append ["name", "id"] _
  | session layer m => exact List.prefix_rfl
  | traffic c m =>
    cases c with
    | virtualServer | pool => exact List.prefix_rfl
    | member => exact List.prefix_append ["name", "id"] _
  | gateway kind m => cases m <;> exact List.prefix_append ["id", "name"] _

/-- What identifies a resource is found in the labels of its samples, under the same names. -/
theorem Sample.IsOf.mem_zip {resource : Resource} {identity : List String} {s : Sample}
    {entry : String × String} (h : s.IsOf resource identity)
    (hlength : resource.names.length = identity.length)
    (hentry : entry ∈ resource.names.zip identity) :
    entry ∈ s.metric.family.labels.zip s.labels := by
  have hnames := s.metric.names_prefix
  rw [h.resource_eq] at hnames
  exact mem_zip_of_prefix hnames h.identity_prefix hlength hentry

/-! ## Series and allow-lists -/

theorem AllowList.includes_iff {a : AllowList} {displayName : Option String} {id : String} :
    a.includes displayName id ↔
      a.entries = [] ∨ id ∈ a.entries ∨ ∃ name ∈ a.entries, displayName = some name := by
  simp only [includes, Bool.or_eq_true, List.isEmpty_iff, List.any_eq_true, beq_iff_eq, and_or_left,
    exists_or, exists_eq_right, eq_comm (b := displayName)]

/-- The allow-list that is about a resource, if there is one. -/
def Filters.of? (f : Filters) : Resource → Option AllowList
  | .gateway kind => some (f.gateways kind)
  | .virtualServer => some f.virtualServer
  | .cluster | .node | .balancer | .pool => Option.none

/-- A series of a family is accepted by an allow-list: the list is empty, or it has the value of the
label for the identifier or for the name. -/
def AllowList.AcceptsSeries (a : AllowList) (m : Metric) (labels : List String) : Prop :=
  a.entries = [] ∨ ∃ value ∈ a.entries,
    ("id", value) ∈ m.family.labels.zip labels ∨ ("name", value) ∈ m.family.labels.zip labels

/-- A series is accepted by the allow-list about its resource. -/
def Filters.AcceptsSeries (f : Filters) (m : Metric) (labels : List String) : Prop :=
  ∀ allowed, f.of? m.resource = some allowed → allowed.AcceptsSeries m labels

/-- What an allow-list has accepted by a display name or an identifier, it accepts by the labels. -/
theorem AllowList.acceptsSeries_of_includes {a : AllowList} {displayName : Option String}
    {id : String} {m : Metric} {labels : List String} (h : a.includes displayName id)
    (hid : ("id", id) ∈ m.family.labels.zip labels)
    (hname : ("name", nameOr displayName id) ∈ m.family.labels.zip labels) :
    a.AcceptsSeries m labels := by
  rcases includes_iff.1 h with hempty | hmem | ⟨name, hmem, rfl⟩
  · exact .inl hempty
  · exact .inr ⟨id, hmem, .inl hid⟩
  · exact .inr ⟨name, hmem, .inr hname⟩

/-- The samples of an accepted gateway are accepted. -/
theorem GatewayRecord.acceptsSeries {f : Filters} {kind : GatewayKind} {g : GatewayRecord}
    (h : (f.gateways kind).includes g.settings.displayName g.settings.id) {s : Sample}
    (hs : s ∈ g.samples kind) : f.AcceptsSeries s.metric s.labels := by
  have hof := AllOf.gateway kind g s hs
  intro allowed hallowed
  rw [hof.resource_eq] at hallowed
  obtain rfl := Option.some.inj hallowed
  refine AllowList.acceptsSeries_of_includes h ?_ ?_
  · exact hof.mem_zip rfl List.mem_cons_self
  · exact hof.mem_zip rfl (List.mem_cons_of_mem _ List.mem_cons_self)

/-- The samples of an accepted virtual server are accepted. -/
theorem VirtualServerRecord.acceptsSeries {f : Filters} {v : VirtualServerRecord}
    (h : f.virtualServer.includes v.settings.displayName v.settings.id) {s : Sample}
    (hs : s ∈ v.samples) : f.AcceptsSeries s.metric s.labels := by
  have hof := AllOf.virtualServer v s hs
  intro allowed hallowed
  rw [hof.resource_eq] at hallowed
  obtain rfl := Option.some.inj hallowed
  refine AllowList.acceptsSeries_of_includes h ?_ ?_
  · exact hof.mem_zip rfl (List.mem_cons_of_mem _ List.mem_cons_self)
  · exact hof.mem_zip rfl List.mem_cons_self

/-- No allow-list is about what is neither a gateway nor a virtual server. -/
theorem Filters.acceptsSeries_of_none {f : Filters} {m : Metric} {labels : List String}
    (h : f.of? m.resource = Option.none) : f.AcceptsSeries m labels := by
  intro allowed hallowed
  rw [h] at hallowed
  cases hallowed

/-- The samples of a load balancer are accepted if its virtual servers are. -/
theorem BalancerRecord.acceptsSeries {f : Filters} {b : BalancerRecord}
    (h : ∀ v ∈ b.virtualServers, f.virtualServer.includes v.settings.displayName v.settings.id)
    {s : Sample} (hs : s ∈ b.samples) : f.AcceptsSeries s.metric s.labels := by
  rw [samples, List.mem_append, List.mem_append] at hs
  rcases hs with (hs | hs) | hs
  · refine Filters.acceptsSeries_of_none ?_
    rw [(AllOf.ownBalancer b s hs).resource_eq]
    rfl
  · obtain ⟨v, hv, hs⟩ := List.mem_flatMap.1 hs
    exact v.acceptsSeries (h v hv) hs
  · obtain ⟨p, -, hs⟩ := List.mem_flatMap.1 hs
    refine Filters.acceptsSeries_of_none ?_
    rw [(AllOf.pool p s hs).resource_eq]
    rfl

end FabricGauges
