import FabricGauges.Manager.Request

/-!
# Regular shapes

What is said of all documents of the manager is proved for every shape that is regular: no name of a
member means another member, an optional value is never null if it is there, and a member that may
be null may be left out. Nothing in a regular shape is chosen by name, so that every part of a
document of such a shape is looked at as a value.
-/

namespace FabricGauges

namespace Field

/-- All names under which a member is accepted. -/
def names (f : Field) : List String := f.name :: f.aliases

theorem answersTo_iff {f : Field} {name : String} : f.answersTo name = true ↔ name ∈ f.names := by
  rw [answersTo, names, List.mem_cons, Bool.or_eq_true, beq_iff_eq, List.contains_iff_mem,
    eq_comm]

end Field

/-- All names of members. -/
def Fields.names : Fields → List String
  | .nil => []
  | .cons field _ rest => field.names ++ rest.names

/-- Whether null is a value of a shape. -/
def Shape.isNullable : Shape → Bool
  | .optional _ | .anything => true
  | _ => false

mutual

/-- Whether a shape is regular. -/
def Shape.isRegular : Shape → Bool
  | .optional s => !s.isNullable && s.isRegular
  | .list s => s.isRegular
  | .record _ fields => fields.isRegular
  | .choice _ _ => false
  | .text | .bool | .signed64 | .unsigned32 | .unsigned64 | .double | .anything => true

/-- Whether members are regular. -/
def Fields.isRegular : Fields → Bool
  | .nil => true
  | .cons field s rest =>
    field.names.all (fun name => !rest.names.contains name) &&
      (!s.isNullable || field.absent != .refused) && s.isRegular && rest.isRegular

end

/-- What makes members regular. -/
theorem Fields.isRegular_cons {field : Field} {s : Shape} {rest : Fields} :
    (cons field s rest).isRegular = true ↔ (∀ name ∈ field.names, name ∉ rest.names) ∧
      (s.isNullable = true → field.absent ≠ .refused) ∧ s.isRegular = true ∧
        rest.isRegular = true := by
  have hnullable : (!s.isNullable || field.absent != .refused) = true ↔
      (s.isNullable = true → field.absent ≠ .refused) := by
    cases s.isNullable with
    | false => simp
    | true => simp
  rw [isRegular, Bool.and_eq_true, Bool.and_eq_true, Bool.and_eq_true, hnullable]
  simp [and_assoc]

/-- An optional value that is not null is read as a value. -/
theorem Shape.decode_optional {ν : Type} [Dialect ν] {s : Shape} {d : Draft ν} (hd : d ≠ .null) :
    (optional s).decode d = (do return some (← s.decode d)) := by
  cases d with
  | null => exact absurd rfl hd
  | _ => rfl

theorem Shape.decode_optional_eq_ok {ν : Type} [Dialect ν] {s : Shape} {d : Draft ν} (hd : d ≠ .null)
    {v : Option s.Val} : (optional s).decode d = .ok v ↔ ∃ w, s.decode d = .ok w ∧ v = some w := by
  rw [decode_optional hd]
  cases s.decode d with
  | error fault => exact ⟨nofun, fun ⟨_, h, _⟩ => nomatch h⟩
  | ok w =>
    refine ⟨fun h => ⟨w, rfl, (Except.ok.inj h).symm⟩, ?_⟩
    rintro ⟨_, hw, rfl⟩
    rw [Except.ok.inj hw]
    rfl

/-! ## The documents of the manager -/

/-- The documents that the manager answers with, and their parts. -/
inductive ManagerDocument where
  | managementNode | controlCluster | managementCluster | clusterStatus
  | listener | managerRole | nodeConfig
  | nodeMembership | fileSystem | systemUsage | nodeStatus
  | interface | interfaceCounters
  | balancer
  | alarm | virtualServerStatus | memberStatus | poolStatus | balancerStatus
  | sessionCounters | trafficCounters | virtualServerStatistics | memberStatistics | poolStatistics
  | balancerStatistics
  | virtualServer | memberGroup | pool
  | gateway
  | routerState | edgeNode | routerStatus | gatewayState
  /-- A page of documents. -/
  | page (document : ManagerDocument)

namespace ManagerDocument

/-- The values of a document. -/
abbrev Value : ManagerDocument → Type
  | managementNode => ManagementNode
  | controlCluster => ControlCluster
  | managementCluster => ManagementCluster
  | clusterStatus => ClusterStatus
  | listener => Listener
  | managerRole => ManagerRole
  | nodeConfig => NodeConfig
  | nodeMembership => NodeMembership
  | fileSystem => FileSystem
  | systemUsage => SystemUsage
  | nodeStatus => NodeStatus
  | interface => Interface
  | interfaceCounters => InterfaceCounters
  | balancer => Balancer
  | alarm => Alarm
  | virtualServerStatus => VirtualServerStatus
  | memberStatus => MemberStatus
  | poolStatus => PoolStatus
  | balancerStatus => BalancerStatus
  | sessionCounters => SessionCounters
  | trafficCounters => TrafficCounters
  | virtualServerStatistics => VirtualServerStatistics
  | memberStatistics => MemberStatistics
  | poolStatistics => PoolStatistics
  | balancerStatistics => BalancerStatistics
  | virtualServer => VirtualServer
  | memberGroup => MemberGroup
  | pool => Pool
  | gateway => Gateway
  | routerState => RouterState
  | edgeNode => EdgeNode
  | routerStatus => RouterStatus
  | gatewayState => GatewayState
  | page document => Page document.Value

instance toDocument : (k : ManagerDocument) → Document k.Value
  | managementNode => inferInstanceAs (Document ManagementNode)
  | controlCluster => inferInstanceAs (Document ControlCluster)
  | managementCluster => inferInstanceAs (Document ManagementCluster)
  | clusterStatus => inferInstanceAs (Document ClusterStatus)
  | listener => inferInstanceAs (Document Listener)
  | managerRole => inferInstanceAs (Document ManagerRole)
  | nodeConfig => inferInstanceAs (Document NodeConfig)
  | nodeMembership => inferInstanceAs (Document NodeMembership)
  | fileSystem => inferInstanceAs (Document FileSystem)
  | systemUsage => inferInstanceAs (Document SystemUsage)
  | nodeStatus => inferInstanceAs (Document NodeStatus)
  | interface => inferInstanceAs (Document Interface)
  | interfaceCounters => inferInstanceAs (Document InterfaceCounters)
  | balancer => inferInstanceAs (Document Balancer)
  | alarm => inferInstanceAs (Document Alarm)
  | virtualServerStatus => inferInstanceAs (Document VirtualServerStatus)
  | memberStatus => inferInstanceAs (Document MemberStatus)
  | poolStatus => inferInstanceAs (Document PoolStatus)
  | balancerStatus => inferInstanceAs (Document BalancerStatus)
  | sessionCounters => inferInstanceAs (Document SessionCounters)
  | trafficCounters => inferInstanceAs (Document TrafficCounters)
  | virtualServerStatistics => inferInstanceAs (Document VirtualServerStatistics)
  | memberStatistics => inferInstanceAs (Document MemberStatistics)
  | poolStatistics => inferInstanceAs (Document PoolStatistics)
  | balancerStatistics => inferInstanceAs (Document BalancerStatistics)
  | virtualServer => inferInstanceAs (Document VirtualServer)
  | memberGroup => inferInstanceAs (Document MemberGroup)
  | pool => inferInstanceAs (Document Pool)
  | gateway => inferInstanceAs (Document Gateway)
  | routerState => inferInstanceAs (Document RouterState)
  | edgeNode => inferInstanceAs (Document EdgeNode)
  | routerStatus => inferInstanceAs (Document RouterStatus)
  | gatewayState => inferInstanceAs (Document GatewayState)
  | page document =>
    have := toDocument document
    inferInstanceAs (Document (Page document.Value))

/-- The shape of a document. -/
def shape (k : ManagerDocument) : Shape := Document.shape k.Value

/-- A page is regular if what it holds is. -/
theorem isRegular_shape_page {k : ManagerDocument} (h : k.shape.isRegular = true) :
    (page k).shape.isRegular = true := by
  show (Fields.isRegular <| .cons (.optional "results") (.list k.shape) _) = true
  rw [Fields.isRegular_cons]
  exact ⟨by decide +kernel, nofun, h, by decide +kernel⟩

/-- The documents of the manager are regular. -/
theorem isRegular_shape (k : ManagerDocument) : k.shape.isRegular = true := by
  induction k with
  | page document ih => exact isRegular_shape_page ih
  | _ => decide +kernel

end ManagerDocument

namespace Request

/-- Which document answers a request. -/
def document : Request → ManagerDocument
  | clusterStatus => .clusterStatus
  | nodeConfig _ => .nodeConfig
  | nodeStatus _ => .nodeStatus
  | interfaces _ => .page .interface
  | interface _ _ => .interface
  | interfaceCounters _ _ => .interfaceCounters
  | page .balancers _ => .page .balancer
  | page (.gateways _) _ => .page .gateway
  | balancer _ => .balancer
  | balancerStatus _ => .page .balancerStatus
  | balancerStatistics _ => .page .balancerStatistics
  | virtualServer _ => .virtualServer
  | pool _ => .pool
  | gatewayState _ _ => .gatewayState

/-- Whatever is asked for, the answer is read as one of the documents. -/
theorem answer_eq_document (r : Request) :
    (⟨r.Answer, inferInstance⟩ : Σ α : Type, Document α) = ⟨r.document.Value, inferInstance⟩ := by
  cases r with
  | page listing cursor =>
    cases listing with
    | balancers => rfl
    | gateways kind => rfl
  | _ => rfl

end Request

end FabricGauges
