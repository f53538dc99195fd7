import FabricGauges.Proofs.Certificate.Chain
import FabricGauges.Proofs.Gauge.Overlay
import FabricGauges.Proofs.Metric.Filter

/-!
# Samples of certificates

Each listener of a manager presents its certificates as one text. A node has a sample for every
certificate that can be read of its texts, and it does not matter to them whether the texts break
afterwards: texts that are cut off before their break give the same samples. What breaks first is
told by the texts in their order.
-/

namespace FabricGauges

/-! ## Listeners -/

/-- The listeners of a manager that present certificates. -/
inductive ListenerKind where
  | api
  | cluster
  | plane
deriving DecidableEq, Repr

namespace ListenerKind

/-- The name of a listener in labels. -/
def name : ListenerKind → String
  | api => "api"
  | cluster => "mgmt_cluster"
  | plane => "mgmt_plane"

/-- The listeners in the order in which their certificates are read. -/
def all : List ListenerKind := [api, cluster, plane]

theorem mem_all (k : ListenerKind) : k ∈ all := by cases k <;> decide

/-- The kinds of listeners have different names. -/
theorem name_inj {k k' : ListenerKind} (h : k.name = k'.name) : k = k' := by
  have hall : ∀ k ∈ all, ∀ k' ∈ all, k.name = k'.name → k = k' := by decide
  exact hall k k.mem_all k' k'.mem_all h

end ListenerKind

theorem toString_inj {i i' : Nat} (h : toString i = toString i') : i = i' := by
  have hdigits : Nat.toDigits 10 i = Nat.toDigits 10 i' := String.ofList_inj.1 h
  have hvalues := congrArg (Nat.ofDigitChars 10 · 0) hdigits
  simpa only [Nat.ofDigitChars_ten_toDigits] using hvalues

/-- A listener of a manager. -/
def ManagerRole.listener (role : ManagerRole) : ListenerKind → Option Listener
  | .api => role.api
  | .cluster => role.cluster
  | .plane => role.plane

namespace NodeRecord

variable {n : NodeRecord} {k : ListenerKind} {i : Nat}

/-- The text in which a listener of a node presents its certificates. -/
def blob? (n : NodeRecord) (k : ListenerKind) : Option String :=
  n.settings.managerRole.bind fun role => Listener.chain? (role.listener k)

/-- The texts of a node, in the order of the listeners. -/
def blobs (n : NodeRecord) : List String := ListenerKind.all.filterMap n.blob?

/-- The certificate in some place of the chain of a listener, as far as the chain can be read. -/
def certificate? (n : NodeRecord) (k : ListenerKind) (i : Nat) : Option Expiry :=
  (n.blob? k).bind fun pem => (Chain.readable (Chain.decode pem))[i]?

/-- A node has a chain for each kind of listener whose certificates it names. -/
theorem chains_eq (n : NodeRecord) :
    n.chains = ListenerKind.all.filterMap fun k =>
      (n.blob? k).map fun pem => ⟨k.name, Chain.decode pem⟩ := by
  unfold chains blob?
  cases n.settings.managerRole with
  | none => rfl
  | some role => rfl

/-! ## Samples of certificates -/

theorem filter_system (labels : List String) (s : SystemUsage) :
    (s.samples labels).filter (·.metric = .node .certificates) = [] := by
  have hloads : (loadSamples labels s.loadAverage).filter (·.metric = .node .certificates) = [] := by
    unfold loadSamples
    split
    · rfl
    · rfl
  have hsystems : (s.fileSystems.flatMap (FileSystem.samples labels)).filter
      (·.metric = .node .certificates) = [] := by
    refine filter_flatMap_of_forall fun f => ?_
    unfold FileSystem.samples Sample.observeInt
    rw [List.filter_append, filter_observe_of_ne (by simp), filter_observe_of_ne (by simp)]
    rfl
  unfold SystemUsage.samples Sample.observeInt
  simp only [List.filter_append, hloads, hsystems]
  simp [filter_observe_of_ne]

theorem filter_interface (labels : List String) (r : InterfaceRecord) :
    (r.samples labels).filter (·.metric = .node .certificates) = [] := by
  unfold InterfaceRecord.samples
  rw [List.filter_append, filter_presence_of_ne (by simp), List.nil_append]
  exact filter_flatMap_of_forall fun m => filter_observe_of_ne (by simp) _

/-- The samples of a node about certificates are those of its chains. -/
theorem filter_certificates (n : NodeRecord) :
    n.samples.filter (·.metric = .node .certificates) =
      n.chains.flatMap (ListenerChain.samples n.labels) := by
  have hchains : (n.chains.flatMap (ListenerChain.samples n.labels)).filter
      (·.metric = .node .certificates) = n.chains.flatMap (ListenerChain.samples n.labels) := by
    refine List.filter_eq_self.2 fun s hs => ?_
    obtain ⟨c, -, hs⟩ := List.mem_flatMap.1 hs
    obtain ⟨e, -, rfl⟩ := List.mem_map.1 hs
    rfl
  have hsystem : (n.status.system.toList.flatMap (SystemUsage.samples n.labels)).filter
      (·.metric = .node .certificates) = [] :=
    filter_flatMap_of_forall (filter_system n.labels)
  have hinterfaces : (n.interfaces.flatMap (InterfaceRecord.samples n.labels)).filter
      (·.metric = .node .certificates) = [] :=
    filter_flatMap_of_forall (filter_interface n.labels)
  unfold samples
  simp only [List.filter_append, hchains, hsystem, hinterfaces]
  rw [filter_presence_of_ne (by simp)]
  simp

/-- What a sample of a node says about certificates. -/
theorem certificate_mem_samples_iff {labels : List String} {value : Double} :
    ⟨.node .certificates, labels, value⟩ ∈ n.samples ↔
      ∃ k i e, n.certificate? k i = some e ∧ labels = n.labels ++ [k.name, toString i] ∧
        value = .ofInt e.notAfter := by
  -- no other samples of a node are about certificates
  have hfilter : ⟨.node .certificates, labels, value⟩ ∈ n.samples ↔
      ⟨.node .certificates, labels, value⟩ ∈ n.chains.flatMap (ListenerChain.samples n.labels) := by
    rw [← filter_certificates, List.mem_filter]
    exact (and_iff_left (decide_eq_true rfl)).symm
  rw [hfilter, chains_eq]
  constructor
  · intro hs
    obtain ⟨c, hc, hs⟩ := List.mem_flatMap.1 hs
    obtain ⟨k, -, hc⟩ := List.mem_filterMap.1 hc
    obtain ⟨pem, hpem, rfl⟩ := Option.map_eq_some_iff.1 hc
    obtain ⟨e, he, heq⟩ := List.mem_map.1 hs
    obtain ⟨i, hi⟩ := List.mem_iff_getElem?.1 he
    obtain ⟨-, rfl, rfl⟩ := Sample.mk.inj heq
    have hindex : e.index = i := Chain.index_eq_of_getElem? hi
    refine ⟨k, i, e, ?_, by rw [hindex], rfl⟩
    rw [certificate?, hpem]
    exact hi
  · rintro ⟨k, i, e, he, rfl, rfl⟩
    obtain ⟨pem, hpem, hi⟩ := Option.bind_eq_some_iff.1 he
    refine List.mem_flatMap.2 ⟨⟨k.name, Chain.decode pem⟩, ?_, ?_⟩
    · exact List.mem_filterMap.2 ⟨k, k.mem_all, by rw [hpem]; rfl⟩
    · refine List.mem_map.2 ⟨e, List.mem_of_getElem? hi, ?_⟩
      rw [Chain.index_eq_of_getElem? hi]

/-- The labels of a series of certificates tell the node, the listener and the place apart. -/
theorem eq_of_append_place {identity identity' : List String} {k k' : ListenerKind} {i i' : Nat}
    (h : identity ++ [k.name, toString i] = identity' ++ [k'.name, toString i']) :
    identity = identity' ∧ k = k' ∧ i = i' := by
  obtain ⟨hidentity, hplace⟩ := List.append_inj' h rfl
  obtain ⟨hname, hrest⟩ := List.cons.inj hplace
  exact ⟨hidentity, ListenerKind.name_inj hname, toString_inj (List.cons.inj hrest).1⟩

/-- What a node says of a certificate is its expiry, in the series of its own labels only. -/
theorem lastValue?_certificates (n : NodeRecord) (identity : List String) (k : ListenerKind)
    (i : Nat) :
    lastValue? (n.samples.map Sample.entry) (.node .certificates, identity ++ [k.name, toString i]) =
      if n.labels = identity then (n.certificate? k i).map fun e => .ofInt e.notAfter else none := by
  have hmem : ∀ v, ((.node .certificates, identity ++ [k.name, toString i]), v) ∈
      n.samples.map Sample.entry ↔
        n.labels = identity ∧ ∃ e, n.certificate? k i = some e ∧ v = .ofInt e.notAfter := by
    intro v
    have hsample : ((.node .certificates, identity ++ [k.name, toString i]), v) ∈
        n.samples.map Sample.entry ↔
          ⟨.node .certificates, identity ++ [k.name, toString i], v⟩ ∈ n.samples := by
      constructor
      · intro h
        obtain ⟨⟨metric, labels, value⟩, hs, heq⟩ := List.mem_map.1 h
        cases heq
        exact hs
      · exact fun hs => List.mem_map.2 ⟨_, hs, rfl⟩
    rw [hsample, certificate_mem_samples_iff]
    constructor
    · rintro ⟨k', i', e, he, hlabels, hv⟩
      obtain ⟨rfl, rfl, rfl⟩ := eq_of_append_place hlabels
      exact ⟨rfl, e, he, hv⟩
    · rintro ⟨rfl, e, he, hv⟩
      exact ⟨k, i, e, he, rfl, hv⟩
  -- there is one sample for a place at most, so that the last one is the only one
  ext v
  rw [lastValue?_eq_some_iff, hmem]
  · by_cases hlabels : n.labels = identity
    · rw [if_pos hlabels, Option.map_eq_some_iff]
      simp only [hlabels, true_and, eq_comm (a := v)]
    · simp [hlabels]
  · intro v v' hv hv'
    obtain ⟨-, e, he, rfl⟩ := (hmem v).1 hv
    obtain ⟨-, e', he', rfl⟩ := (hmem v').1 hv'
    rw [Option.some.inj (he.symm.trans he')]

end NodeRecord

/-! ## The first break -/

/-- The break of a chain, if there is one. -/
def Chain.break? : Except BrokenChain (List Expiry) → Option BrokenChain
  | .ok _ => none
  | .error broken => some broken

/-- A chain that is read has no break. -/
theorem Chain.break?_eq_none {decoded : Except BrokenChain (List Expiry)} :
    break? decoded = none ↔ ∃ expiries, decoded = .ok expiries := by
  cases decoded with
  | ok expiries => exact ⟨fun _ => ⟨expiries, rfl⟩, fun _ => rfl⟩
  | error broken => simp [break?]

/-- The break of a chain is what its decoding fails with. -/
theorem Chain.break?_eq_some {decoded : Except BrokenChain (List Expiry)} {broken : BrokenChain} :
    break? decoded = some broken ↔ decoded = .error broken := by
  cases decoded with
  | ok expiries => simp [break?]
  | error found => simp [break?]

/-- The first broken chain of a node is that of its first text that cannot be read to its end. -/
theorem NodeRecord.brokenChain?_eq (n : NodeRecord) :
    n.brokenChain? = n.blobs.findSome? fun pem => Chain.break? (Chain.decode pem) := by
  have hdecoded : n.chains.map (·.decoded) = n.blobs.map Chain.decode := by
    rw [chains_eq, blobs, List.map_filterMap, List.map_filterMap]
    simp only [Option.map_map]
    rfl
  have hbroken : n.brokenChain? = (n.chains.map (·.decoded)).findSome? Chain.break? := by
    rw [List.findSome?_map]
    rfl
  rw [hbroken, hdecoded, List.findSome?_map]
  rfl

/-- The certificate in some place of a listener's chain, of the last node with some labels that has
one there. -/
def lastCertificate? (records : List NodeRecord) (identity : List String) (k : ListenerKind)
    (i : Nat) : Option Expiry :=
  records.reverse.findSome? fun n => if n.labels = identity then n.certificate? k i else none

/-- Of the nodes with the same labels, the last that has the certificate gives its series. -/
theorem lastValue?_records (records : List NodeRecord) (identity : List String) (k : ListenerKind)
    (i : Nat) :
    lastValue? ((records.flatMap NodeRecord.samples).map Sample.entry)
        (.node .certificates, identity ++ [k.name, toString i]) =
      (lastCertificate? records identity k i).map fun e => .ofInt e.notAfter := by
  rw [List.map_flatMap, lastValue?_flatMap, lastCertificate?, List.map_findSome?]
  congr 1
  funext n
  rw [NodeRecord.lastValue?_certificates, Function.comp_apply]
  split
  · rfl
  · rfl

/-! ## Other texts in their place -/

/-- A listener with another text of certificates. -/
def Listener.mapCertificate (f : String → String) (l : Listener) : Listener :=
  { l with certificate := l.certificate.map f }

/-- The settings of a node with other texts of certificates. -/
def NodeConfig.mapCertificates (f : String → String) (c : NodeConfig) : NodeConfig :=
  let map := Option.map (Listener.mapCertificate f)
  { c with managerRole := c.managerRole.map fun role =>
      ⟨map role.api, map role.cluster, map role.plane⟩ }

/-- Each text is replaced by one that is read to its end with the certificates that can be read of
the text itself. -/
def Repairs (f : String → String) : Prop :=
  ∀ pem, Chain.decode (f pem) = .ok (Chain.readable (Chain.decode pem))

/-- Every broken chain has a repair. -/
theorem exists_repairs : ∃ f, Repairs f := by
  choose f hf using Chain.exists_repaired
  exact ⟨f, hf⟩

namespace NodeRecord

/-- A node with other texts of certificates. -/
def mapCertificates (f : String → String) (n : NodeRecord) : NodeRecord :=
  { n with settings := n.settings.mapCertificates f }

variable {f : String → String}

theorem blob?_mapCertificates (f : String → String) (n : NodeRecord) (k : ListenerKind) :
    (n.mapCertificates f).blob? k = (n.blob? k).map f := by
  have hlistener : ∀ l : Option Listener,
      Listener.chain? (l.map (Listener.mapCertificate f)) = (Listener.chain? l).map f := by
    intro l
    cases l with
    | none => rfl
    | some l => rfl
  unfold blob? mapCertificates NodeConfig.mapCertificates
  cases n.settings.managerRole with
  | none => rfl
  | some role => cases k <;> exact hlistener _

/-- Repairs leave of a chain the certificates that could be read. -/
theorem chains_mapCertificates (hf : Repairs f) (n : NodeRecord) :
    (n.mapCertificates f).chains =
      n.chains.map fun c => ⟨c.listener, .ok (Chain.readable c.decoded)⟩ := by
  rw [chains_eq, chains_eq, List.map_filterMap]
  refine List.filterMap_congr fun k _ => ?_
  rw [blob?_mapCertificates, Option.map_map, Option.map_map]
  refine congrArg (Option.map · (n.blob? k)) (funext fun pem => ?_)
  simp only [Function.comp_apply, hf pem]

/-- A repaired node has the samples that it had. -/
theorem samples_mapCertificates (hf : Repairs f) (n : NodeRecord) :
    (n.mapCertificates f).samples = n.samples := by
  have hchains : (n.mapCertificates f).chains.flatMap (ListenerChain.samples n.labels) =
      n.chains.flatMap (ListenerChain.samples n.labels) := by
    rw [chains_mapCertificates hf, List.flatMap_map]
    rfl
  have hlabels : (n.mapCertificates f).labels = n.labels := rfl
  rw [samples, samples, hlabels, hchains]
  rfl

/-- Nothing of a repaired node is broken. -/
theorem brokenChain?_mapCertificates (hf : Repairs f) (n : NodeRecord) :
    (n.mapCertificates f).brokenChain? = none := by
  rw [brokenChain?, chains_mapCertificates hf]
  refine List.findSome?_eq_none_iff.2 fun c hc => ?_
  obtain ⟨_, -, rfl⟩ := List.mem_map.1 hc
  rfl

end NodeRecord

end FabricGauges
