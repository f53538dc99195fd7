import FabricGauges.Proofs.Gauge.Overlay
import FabricGauges.Proofs.Metric.Draws
import FabricGauges.Proofs.Metric.Filter

/-!
# The series of a family

The samples of a family among those of a stage are what the family draws from the entries of its
part, and a board that they are published on shows for each label tuple what the last entry says
that says anything.
-/

namespace FabricGauges

variable {m : Metric} {p : Provenance} {labels : List String}

/-! ## Samples of one family -/

theorem flatMap_nil_right {α β : Type} (as : List α) : (as.flatMap fun _ => ([] : List β)) = [] :=
  List.flatMap_eq_nil_iff.2 fun _ _ => rfl

section

variable {entry : Json} {ms : List Metric}

/-- What a family draws belongs to the family. -/
theorem metric_of_mem_draw {s : Sample} (h : s ∈ m.draw entry) : s.metric = m := by
  obtain ⟨p, -, hs⟩ := Option.bind_eq_some_iff.1 (Option.mem_toList.1 h)
  obtain ⟨labels, -, hs⟩ := Option.bind_eq_some_iff.1 hs
  obtain ⟨value, -, hs⟩ := Option.bind_eq_some_iff.1 hs
  rw [← Option.some.inj hs]

/-- A family keeps what it draws itself and nothing that another one draws. -/
theorem filter_draw (m' : Metric) :
    (m'.draw entry).filter (·.metric = m) = if m' = m then m.draw entry else [] := by
  split
  · next h =>
    subst h
    exact List.filter_eq_self.2 fun s hs => decide_eq_true (metric_of_mem_draw hs)
  · next h =>
    refine List.filter_eq_nil_iff.2 fun s hs hmetric => h ?_
    rw [← metric_of_mem_draw hs, of_decide_eq_true hmetric]

/-- Of what several families draw, one keeps its own. -/
theorem filter_drawAll (h : ms.Nodup) :
    (drawAll ms entry).filter (·.metric = m) = if m ∈ ms then m.draw entry else [] := by
  induction ms with
  | nil => rfl
  | cons m' ms ih =>
    obtain ⟨hfirst, hrest⟩ := List.nodup_cons.1 h
    have hcons : drawAll (m' :: ms) entry = m'.draw entry ++ drawAll ms entry := rfl
    rw [hcons, List.filter_append, filter_draw, ih hrest]
    by_cases hm : m' = m
    · -- the family is not among the others again
      subst hm
      rw [if_pos rfl, if_neg hfirst, if_pos List.mem_cons_self, List.append_nil]
    · simp [hm, Ne.symm hm]

end

section

variable (hp : m.provenance? = some p)
include hp

/-- The families of a part draw for a family only if it belongs to the part. -/
theorem filter_metrics (part : Part) (entry : Json) :
    (drawAll part.metrics entry).filter (·.metric = m) =
      if p.part = part then m.draw entry else [] := by
  have hnodup : Metric.all.Nodup := by decide
  have hmem : m ∈ part.metrics ↔ p.part = part := by
    rw [Part.metrics, List.mem_filter, hp]
    simp [m.mem_all]
  have hmetrics : part.metrics.Nodup := hnodup.filter _
  rw [filter_drawAll hmetrics]
  simp only [hmem]

/-- A virtual server is an entry of its own. -/
theorem VirtualServerRecord.filter_samples (v : VirtualServerRecord) :
    v.samples.filter (·.metric = m) = if p.part = .virtualServer then m.draw v.entry else [] := by
  rw [samples_eq, filter_metrics hp]

/-- The samples of a pool in a family are drawn from the entries of the family's part. -/
theorem PoolRecord.filter_samples (r : PoolRecord) :
    r.samples.filter (·.metric = m) = (r.entries p.part).flatMap m.draw := by
  rw [samples_eq, List.filter_append, List.filter_flatMap]
  simp only [filter_metrics hp]
  cases p.part <;> simp [entries]

/-- The samples of a load balancer in a family are drawn from the entries of the family's part. -/
theorem BalancerRecord.filter_samples (b : BalancerRecord) :
    b.samples.filter (·.metric = m) = (b.entries p.part).flatMap m.draw := by
  rw [samples, ownSamples_eq, List.filter_append, List.filter_append, List.filter_flatMap,
    List.filter_flatMap, filter_metrics hp]
  simp only [VirtualServerRecord.filter_samples hp, PoolRecord.filter_samples hp]
  cases p.part with
  | balancer => simp [entries, PoolRecord.entries, flatMap_nil_right]
  | virtualServer => simp [entries, PoolRecord.entries, flatMap_nil_right, List.flatMap_map]
  | _ => simp [entries, PoolRecord.entries, flatMap_nil_right, List.flatMap_assoc]

theorem ClusterStatus.filter_samples (c : ClusterStatus) (hstage : m.stage = .cluster) :
    c.samples.filter (·.metric = m) = ((Records.cluster c).entries p.part).flatMap m.draw := by
  rw [samples_eq, filter_drawAll (by decide)]
  cases m with
  | cluster k => cases k <;> cases hp <;> simp [Records.entries]
  | traffic carrier k => cases carrier <;> cases hstage
  | _ => cases hstage

/-- The samples of a gateway in a family are drawn from the entries of the family's part. -/
theorem GatewayRecord.filter_samples (kind : GatewayKind) (g : GatewayRecord)
    (hstage : m.stage = .gateways kind) :
    (g.samples kind).filter (·.metric = m) = (g.entries p.part).flatMap m.draw := by
  have hown : (([.info, .status, .failure, .transport] : List GatewayMetric).map
      (Metric.gateway kind)).Nodup := by cases kind <;> decide
  have hedge : [Metric.gateway kind .edge].Nodup := by simp
  rw [samples_eq, List.filter_append, List.filter_flatMap, filter_drawAll hown]
  simp only [filter_drawAll hedge]
  cases m with
  | gateway kind' k =>
    cases hstage
    cases k <;> cases hp <;> simp [entries, flatMap_nil_right]
  | traffic carrier k => cases carrier <;> cases hstage
  | _ => cases hstage

/-- The samples of a node in a family are drawn from the entries of the family's part. -/
theorem NodeRecord.filter_samples (n : NodeRecord) (hstage : m.stage = .nodes) :
    n.samples.filter (·.metric = m) = (n.entries p.part).flatMap m.draw := by
  -- the expiry of certificates is drawn from no entry
  have hchains :
      (n.chains.flatMap (ListenerChain.samples n.labels)).filter (·.metric = m) = [] := by
    refine filter_flatMap_of_forall fun c => List.filter_eq_nil_iff.2 fun s hs hmetric => ?_
    obtain ⟨e, -, rfl⟩ := List.mem_map.1 hs
    rw [← of_decide_eq_true hmetric] at hp
    cases hp
  have hfiles : [Metric.node .fsTotal, .node .fsUsed].Nodup := by decide
  have hinterfaces : (Metric.node .interface :: InterfaceMetric.all.map .interface).Nodup := by
    decide
  rw [samples_eq]
  simp only [List.filter_append, List.filter_flatMap, hchains, List.append_nil,
    filter_drawAll hfiles, filter_drawAll hinterfaces]
  rw [filter_drawAll (by decide), filter_drawAll (by decide), filter_drawAll (by decide)]
  cases m with
  | node k => cases k <;> cases hp <;> simp [entries, flatMap_nil_right]
  | interface k => cases hp; cases k <;> simp [InterfaceMetric.all, entries, flatMap_nil_right]
  | traffic carrier k => cases carrier <;> cases hstage
  | _ => cases hstage

/-- The samples of a family are what it draws from the entries of its part. -/
theorem Records.filter_samples (r : Records) (hstage : m.stage = r.stage) :
    r.samples.filter (·.metric = m) = (r.entries p.part).flatMap m.draw := by
  cases r with
  | cluster status => exact status.filter_samples hp hstage
  | nodes records =>
    rw [samples, List.filter_flatMap, entries, List.flatMap_assoc]
    exact List.flatMap_congr fun n _ => n.filter_samples hp hstage
  | balancers records =>
    rw [samples, List.filter_flatMap, entries, List.flatMap_assoc]
    exact List.flatMap_congr fun b _ => b.filter_samples hp
  | gateways kind records =>
    rw [samples, List.filter_flatMap, entries, List.flatMap_assoc]
    exact List.flatMap_congr fun g _ => g.filter_samples hp kind hstage

end

/-! ## Series of one family -/

namespace Provenance

/-- What the last of the entries with these labels that gives a value gives. -/
def last? (p : Provenance) (entries : List Json) (labels : List String) : Option Double :=
  entries.reverse.findSome? fun entry =>
    if p.labels? entry = some labels then p.value.read? entry else none

/-- The last of the entries with these labels that gives a value gives this one. -/
def Shows (p : Provenance) (entries : List Json) (labels : List String) (value : Double) : Prop :=
  ∃ before entry after, entries = before ++ entry :: after ∧ p.labels? entry = some labels ∧
    p.value.read? entry = some value ∧
      ∀ other ∈ after, p.labels? other = some labels → p.value.read? other = none

/-- The last value that the entries have for labels is the one that is shown. -/
theorem last?_eq_some_iff {entries : List Json} {value : Double} :
    p.last? entries labels = some value ↔ p.Shows entries labels value := by
  unfold last? Shows
  rw [List.findSome?_eq_some_iff]
  constructor
  · -- the search begins at the end, so what it has gone by comes after what it finds
    intro h
    obtain ⟨after, entry, before, hentries, hentry, hafter⟩ := h
    obtain ⟨hlabels, hvalue⟩ := Option.ite_none_right_eq_some.1 hentry
    have hsplit : entries = before.reverse ++ entry :: after.reverse := by
      rw [← List.reverse_reverse entries, hentries]
      simp
    refine ⟨_, _, _, hsplit, hlabels, hvalue, fun other hother hsame => ?_⟩
    have hnone := hafter other (List.mem_reverse.1 hother)
    rwa [if_pos hsame] at hnone
  · intro h
    obtain ⟨before, entry, after, rfl, hlabels, hvalue, hafter⟩ := h
    refine ⟨after.reverse, entry, before.reverse, by simp, ?_, fun other hother => ?_⟩
    · rw [if_pos hlabels, hvalue]
    · split
      · next hsame => exact hafter other (List.mem_reverse.1 hother) hsame
      · rfl

/-- A value is shown for labels if one of their entries has a value. -/
theorem exists_shows_iff {entries : List Json} :
    (∃ value, p.Shows entries labels value) ↔
      ∃ entry ∈ entries, p.labels? entry = some labels ∧ (p.value.read? entry).isSome := by
  simp only [← last?_eq_some_iff, ← Option.isSome_iff_exists]
  unfold last?
  rw [List.findSome?_isSome_iff]
  refine exists_congr fun entry => and_congr List.mem_reverse ?_
  split
  · next h => simp [h]
  · next h => simp [h]

end Provenance

/-- An entry gives a series its value if the labels are those of the series. -/
theorem lastValue?_draw (hp : m.provenance? = some p) (entry : Json) :
    lastValue? ((m.draw entry).map Sample.entry) (m, labels) =
      if p.labels? entry = some labels then p.value.read? entry else none := by
  unfold Metric.draw
  rw [hp, Option.bind_some, Provenance.sample?]
  cases p.labels? entry with
  | none => rfl
  | some found =>
    cases p.value.read? entry with
    | none => simp [lastValue?]
    | some value =>
      refine (lastValue?_singleton _).trans ?_
      simp [Sample.entry]

namespace Records

variable (r : Records) (b : Board) (hp : m.provenance? = some p) (hstage : m.stage = r.stage)
include hp hstage

/-- After a stage has been published, a family has the series that its entries show. -/
theorem mem_family_iff {value : Double} :
    (labels, value) ∈ (b.publish r.stage r.samples).family m ↔
      p.Shows (r.entries p.part) labels value := by
  have hkeep : ∀ x ∈ r.samples.map Sample.entry, x.1 = (m, labels) → decide (x.1.1 = m) :=
    fun x _ hkey => decide_eq_true (congrArg Prod.fst hkey)
  have hfilter : (r.samples.map Sample.entry).filter (fun x => x.1.1 = m) =
      (r.entries p.part).flatMap fun entry => (m.draw entry).map Sample.entry := by
    rw [List.filter_map, ← List.map_flatMap, ← r.filter_samples hp hstage]
    rfl
  rw [Board.mem_family_publish_iff b hstage, ← lastValue?_filter hkeep, hfilter,
    lastValue?_flatMap, ← Provenance.last?_eq_some_iff]
  simp only [lastValue?_draw hp]
  rfl

end Records

end FabricGauges
