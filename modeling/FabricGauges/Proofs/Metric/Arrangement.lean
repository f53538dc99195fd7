import FabricGauges.Proofs.Gauge.Overlay
import FabricGauges.Proofs.Metric.Subject
import Mathlib.Data.List.Flatten
import Mathlib.Data.List.Perm.Basic
import Mathlib.Data.Prod.Basic

/-!
# Records in any order

The samples of a record carry its identifier, each at the place that its family has for it. Two
records with different identifiers have therefore no series in common, and a list of such records
shows the same whatever its order. With a load balancer come its virtual servers and its pools, so
these have to differ as well.
-/

namespace FabricGauges

/-! ## Records of any kind -/

/-- A record of any kind, with the samples that are set for it alone. Those of the members of a pool
are set with the pool, those of the virtual servers and pools of a load balancer are not set with
it. -/
inductive AnyRecord where
  | node (n : NodeRecord)
  | balancer (b : BalancerRecord)
  | virtualServer (v : VirtualServerRecord)
  | pool (p : PoolRecord)
  | gateway (kind : GatewayKind) (g : GatewayRecord)

namespace AnyRecord

/-- What a record is about. -/
def resource : AnyRecord → Resource
  | node _ => .node
  | balancer _ => .balancer
  | virtualServer _ => .virtualServer
  | pool _ => .pool
  | gateway kind _ => .gateway kind

/-- The identifier of the resource. -/
def id : AnyRecord → String
  | node n => n.settings.id
  | balancer b => b.settings.id
  | virtualServer v => v.settings.id
  | pool p => p.settings.id
  | gateway _ g => g.settings.id

/-- The labels that identify the resource. -/
def labels : AnyRecord → List String
  | node n => n.labels
  | balancer b => b.labels
  | virtualServer v => v.labels
  | pool p => p.labels
  | gateway _ g => g.labels

/-- The samples that are set for a record. -/
def samples : AnyRecord → List Sample
  | node n => n.samples
  | balancer b => b.ownSamples
  | virtualServer v => v.samples
  | pool p => p.samples
  | gateway kind g => g.samples kind

/-- Everything that is shown of a load balancer: itself, its virtual servers and its pools. -/
def ofBalancer (b : BalancerRecord) : List AnyRecord :=
  balancer b :: b.virtualServers.map virtualServer ++ b.pools.map pool

theorem flatMap_ofBalancer (b : BalancerRecord) : (ofBalancer b).flatMap samples = b.samples := by
  unfold ofBalancer BalancerRecord.samples
  rw [List.flatMap_append, List.flatMap_cons, List.flatMap_map, List.flatMap_map]
  rfl

end AnyRecord

/-- The name of the label for the identifier. -/
def Resource.idName : Resource → String
  | node => "uuid"
  | _ => "id"

/-- The place of the identifier among the labels that identify a resource. -/
def Resource.idPlace : Resource → Nat
  | node | gateway _ => 0
  | _ => 1

namespace AnyRecord

variable {x y : AnyRecord} {s s' : Sample}

theorem allOf (x : AnyRecord) : AllOf x.resource x.labels x.samples := by
  cases x with
  | node n => exact .node n
  | balancer b => exact .ownBalancer b
  | virtualServer v => exact .virtualServer v
  | pool p => exact .pool p
  | gateway kind g => exact .gateway kind g

theorem id_mem_zip (x : AnyRecord) : (x.resource.idName, x.id) ∈ x.resource.names.zip x.labels := by
  cases x with
  | node n => exact List.mem_cons_self
  | balancer b | virtualServer v | pool p => exact List.mem_cons_of_mem _ List.mem_cons_self
  | gateway kind g => exact List.mem_cons_self

/-- A record has a label for each of its names. -/
theorem length_names (x : AnyRecord) : x.resource.names.length = x.labels.length := by
  cases x <;> rfl

/-- Every sample of a record has its identifier under the label for it. -/
theorem id_mem_labels (hs : s ∈ x.samples) :
    (x.resource.idName, x.id) ∈ s.metric.family.labels.zip s.labels :=
  (x.allOf s hs).mem_zip x.length_names x.id_mem_zip

/-- Each sample of a record has its id among the labels. -/
theorem labels_idPlace (hs : s ∈ x.samples) : s.labels[s.metric.resource.idPlace]? = some x.id := by
  have hof := x.allOf s hs
  obtain ⟨later, hlabels⟩ := hof.identity_prefix
  rw [hof.resource_eq, ← hlabels]
  cases x <;> rfl

/-- Records about different resources have no series in common. -/
theorem entry_ne (h : (x.resource, x.id) ≠ (y.resource, y.id)) (hs : s ∈ x.samples)
    (hs' : s' ∈ y.samples) : s.entry.1 ≠ s'.entry.1 := by
  intro heq
  obtain ⟨hmetric, hlabels⟩ := Prod.mk.inj heq
  have hid := labels_idPlace hs
  rw [hmetric, hlabels, labels_idPlace hs'] at hid
  have hresource : x.resource = y.resource := by
    rw [← (x.allOf s hs).resource_eq, hmetric, (y.allOf s' hs').resource_eq]
  exact h (Prod.ext hresource (Option.some.inj hid.symm))

/-- Records about different resources can be shown in any order. -/
theorem sameSamples_perm {xs ys : List AnyRecord} (h : xs.Perm ys)
    (hnodup : (xs.map fun x => (x.resource, x.id)).Nodup) (b : Board) :
    (b.setAll (xs.flatMap samples)).SameSamples (b.setAll (ys.flatMap samples)) := by
  refine Board.sameSamples_setAll_perm h ?_ b
  exact (List.pairwise_map.1 hnodup).imp fun hne s hs s' hs' => entry_ne hne hs hs'

/-! ## Records of one kind -/

section

variable {α : Type} {record : α → AnyRecord} {resource : Resource}

theorem nodup_subjects {as : List α} (hresource : ∀ a, (record a).resource = resource)
    (hnodup : (as.map fun a => (record a).id).Nodup) :
    ((as.map record).map fun x => (x.resource, x.id)).Nodup := by
  rw [List.map_map]
  have hpairs : as.map ((fun x : AnyRecord => (x.resource, x.id)) ∘ record) =
      (as.map fun a => (record a).id).map (Prod.mk resource) := by
    rw [List.map_map]
    exact List.map_congr_left fun a _ => by simp [hresource]
  rw [hpairs]
  exact hnodup.map (Prod.mk_right_injective resource)

/-- Records of one kind with different identifiers can be shown in any order. -/
theorem sameSamples_of_kind (record : α → AnyRecord) {as as' : List α} (h : as.Perm as')
    (hresource : ∀ a, (record a).resource = resource)
    (hnodup : (as.map fun a => (record a).id).Nodup) (b : Board) :
    (b.setAll (as.flatMap fun a => (record a).samples)).SameSamples
      (b.setAll (as'.flatMap fun a => (record a).samples)) := by
  have hperm := sameSamples_perm (h.map record) (nodup_subjects hresource hnodup) b
  rwa [List.flatMap_map, List.flatMap_map] at hperm

end

/-- What is shown of some load balancers: themselves, their virtual servers and their pools. -/
theorem perm_ofBalancer (bs : List BalancerRecord) :
    (bs.flatMap ofBalancer).Perm (bs.map balancer ++
      ((bs.flatMap (·.virtualServers)).map virtualServer ++ (bs.flatMap (·.pools)).map pool)) := by
  have hparts : (bs.flatMap (·.virtualServers)).map virtualServer ++
      (bs.flatMap (·.pools)).map pool =
        bs.flatMap (fun b => b.virtualServers.map virtualServer) ++
          bs.flatMap fun b => b.pools.map pool := by
    rw [List.map_flatMap, List.map_flatMap]
  have hmap : bs.map balancer = bs.flatMap fun b => [balancer b] := List.map_eq_flatMap
  rw [hparts, hmap]
  have hjoin := (List.flatMap_append_perm bs (fun b => b.virtualServers.map virtualServer)
    fun b => b.pools.map pool).append_left (bs.flatMap fun b => [balancer b])
  exact (hjoin.trans (List.flatMap_append_perm bs (fun b => [balancer b]) _)).symm

/-- Load balancers, their virtual servers and their pools are about different resources if the
identifiers of each kind are different. -/
theorem nodup_subjects_ofBalancer {bs : List BalancerRecord}
    (hbalancers : (bs.map (·.settings.id)).Nodup)
    (hservers : ((bs.flatMap (·.virtualServers)).map (·.settings.id)).Nodup)
    (hpools : ((bs.flatMap (·.pools)).map (·.settings.id)).Nodup) :
    ((bs.flatMap ofBalancer).map fun x => (x.resource, x.id)).Nodup := by
  -- records of two kinds are never about the same
  have hkinds : ∀ {α β : Type} {as : List α} {as' : List β} {record : α → AnyRecord}
      {record' : β → AnyRecord},
      (∀ a a', (record a).resource ≠ (record' a').resource) →
      ((as.map record).map fun x => (x.resource, x.id)).Disjoint
        ((as'.map record').map fun x => (x.resource, x.id)) := by
    intro α β as as' record record' hne subject hmem hmem'
    rw [List.map_map] at hmem hmem'
    obtain ⟨a, -, rfl⟩ := List.mem_map.1 hmem
    obtain ⟨a', -, heq⟩ := List.mem_map.1 hmem'
    exact hne a a' (Prod.mk.inj heq).1.symm
  refine ((perm_ofBalancer bs).map _).nodup_iff.2 ?_
  rw [List.map_append, List.map_append]
  refine List.nodup_append'.2 ⟨?_, List.nodup_append'.2 ⟨?_, ?_, ?_⟩,
    List.disjoint_append_right.2 ⟨?_, ?_⟩⟩
  · exact nodup_subjects (fun _ => rfl) hbalancers
  · exact nodup_subjects (fun _ => rfl) hservers
  · exact nodup_subjects (fun _ => rfl) hpools
  · exact hkinds fun _ _ h => by cases h
  · exact hkinds fun _ _ h => by cases h
  · exact hkinds fun _ _ h => by cases h

end AnyRecord

/-! ## Stages in any order -/

/-- The order of records does not matter. Every sample of a record has its identifier under the
label for it, so records of one kind with different identifiers show the same in either order, and
lists of different records in any order. In particular each stage shows the same whatever the order
of its records: for the load balancers, if their identifiers are different, those of all their
virtual servers and those of all their pools. -/
theorem records_come_in_any_order :
    (∀ x : AnyRecord, ∀ s ∈ x.samples,
      (x.resource.idName, x.id) ∈ s.metric.family.labels.zip s.labels) ∧
    (∀ x y : AnyRecord, x.id ≠ y.id → ∀ b : Board,
      ((b.setAll x.samples).setAll y.samples).SameSamples
        ((b.setAll y.samples).setAll x.samples)) ∧
    (∀ xs ys : List AnyRecord, xs.Perm ys → (xs.map fun x => (x.resource, x.id)).Nodup →
      ∀ b : Board, (b.setAll (xs.flatMap AnyRecord.samples)).SameSamples
        (b.setAll (ys.flatMap AnyRecord.samples))) ∧
    (∀ ns ns' : List NodeRecord, ns.Perm ns' → (ns.map (·.settings.id)).Nodup →
      ∀ b : Board, (b.publish .nodes (ns.flatMap NodeRecord.samples)).SameSamples
        (b.publish .nodes (ns'.flatMap NodeRecord.samples))) ∧
    (∀ bs bs' : List BalancerRecord, bs.Perm bs' → (bs.map (·.settings.id)).Nodup →
      ((bs.flatMap (·.virtualServers)).map (·.settings.id)).Nodup →
      ((bs.flatMap (·.pools)).map (·.settings.id)).Nodup →
      ∀ b : Board, (b.publish .balancers (bs.flatMap BalancerRecord.samples)).SameSamples
        (b.publish .balancers (bs'.flatMap BalancerRecord.samples))) ∧
    ∀ (kind : GatewayKind) (gs gs' : List GatewayRecord), gs.Perm gs' →
      (gs.map (·.settings.id)).Nodup →
      ∀ b : Board, (b.publish (.gateways kind) (gs.flatMap (GatewayRecord.samples kind))).SameSamples
        (b.publish (.gateways kind) (gs'.flatMap (GatewayRecord.samples kind))) := by
  refine ⟨fun x s hs => AnyRecord.id_mem_labels hs, ?_,
    fun xs ys hperm hnodup b => AnyRecord.sameSamples_perm hperm hnodup b, ?_, ?_, ?_⟩
  -- two records are the least list to be put in another order
  · intro x y hid b
    have hnodup : ([x, y].map fun x => (x.resource, x.id)).Nodup := by
      rw [List.map_cons, List.nodup_cons]
      refine ⟨fun hmem => hid ?_, List.nodup_singleton _⟩
      exact (Prod.mk.inj (List.mem_singleton.1 hmem)).2
    have hswap := AnyRecord.sameSamples_perm (List.Perm.swap y x []) hnodup b
    rwa [List.flatMap_cons, List.flatMap_singleton, List.flatMap_cons, List.flatMap_singleton,
      Board.setAll_append, Board.setAll_append] at hswap
  · intro ns ns' hperm hnodup b
    exact AnyRecord.sameSamples_of_kind .node hperm (fun _ => rfl) hnodup _
  · intro bs bs' hperm hbalancers hservers hpools b
    -- a load balancer counts as its own record and those of its parts
    have hsamples : ∀ bs : List BalancerRecord, bs.flatMap BalancerRecord.samples =
        (bs.flatMap AnyRecord.ofBalancer).flatMap AnyRecord.samples := by
      intro bs
      rw [List.flatMap_assoc]
      exact List.flatMap_congr fun b _ => (AnyRecord.flatMap_ofBalancer b).symm
    have hnodup := AnyRecord.nodup_subjects_ofBalancer hbalancers hservers hpools
    show (Board.setAll _ _).SameSamples (Board.setAll _ _)
    rw [hsamples bs, hsamples bs']
    exact AnyRecord.sameSamples_perm (hperm.flatMap_right _) hnodup _
  · intro kind gs gs' hperm hnodup b
    exact AnyRecord.sameSamples_of_kind (.gateway kind) hperm (fun _ => rfl) hnodup _

/-- Two load balancers with a virtual server each, one of them with a pool and its member. -/
theorem two_balancers_in_either_order :
    let server (id : String) : VirtualServerRecord :=
      ⟨⟨id, none, some true, none, none, none⟩, ⟨none, some "UP", none⟩, ⟨none, none⟩⟩
    let pool : PoolRecord :=
      ⟨⟨"p", none, none, none, none⟩, ⟨none, some "UP", none, []⟩, ⟨none, none, []⟩,
        [⟨⟨some "10.0.0.1", some "80", some "UP", none⟩, ⟨none, none, none⟩⟩]⟩
    let balancer (id : String) (servers : List VirtualServerRecord) (pools : List PoolRecord) :
        BalancerRecord :=
      ⟨⟨id, none, none, none, none, none⟩, ⟨none, some "UP", none, none, none, none, [], []⟩,
        ⟨none, none, [], []⟩, servers, pools⟩
    let a := balancer "a" [server "v"] [pool]
    let b := balancer "b" [server "w"] []
    let shown (bs : List BalancerRecord) : Board :=
      Board.blank.publish .balancers (bs.flatMap BalancerRecord.samples)
    (shown [a, b]).family (.virtualServer .status) =
        [(["v", "v", "UP"], .one), (["w", "w", "UP"], .one)] ∧
      (shown [b, a]).family (.virtualServer .status) =
        [(["w", "w", "UP"], .one), (["v", "v", "UP"], .one)] ∧
      (shown [a, b]).SameSamples (shown [b, a]) ∧
      ∀ s ∈ (AnyRecord.pool pool).samples, ("id", "p") ∈ s.metric.family.labels.zip s.labels := by
  intro server pool balancer a b shown
  obtain ⟨hid, -, -, -, hbalancers, -⟩ := records_come_in_any_order
  refine ⟨by decide, by decide, ?_, hid (.pool pool)⟩
  exact hbalancers [a, b] [b, a] (.swap b a []) (by decide) (by decide) (by decide) _

end FabricGauges
