import FabricGauges.Proofs.Metric.Series

/-!
# Quantities

Most families show a number. Each of them has a field of its own in the documents about its part,
and shows what the last entry with the same labels that has the field says there. Everything else in
the documents is nothing to it.
-/

namespace FabricGauges

variable {m : Metric} {p : Provenance}

namespace Metric

/-- The families that show a number of a document: all quantities but the expiry of certificates. -/
def quantities : List Metric :=
  all.filter fun m => m.meaning = .measure ∧ m ≠ .node .certificates

example : quantities.length = 75 := by decide

/-- A quantity has one source, a field of the entry, and no labels besides those of its part. -/
theorem exists_field (h : m ∈ quantities) :
    ∃ p path, m.provenance? = some p ∧ p.extra = [] ∧ p.value.field? = some path := by
  have hall : ∀ m ∈ quantities,
      m.provenance?.any fun p => p.extra = [] ∧ p.value.field?.isSome := by decide
  have hany := hall m h
  cases hp : m.provenance? with
  | none =>
    rw [hp] at hany
    cases hany
  | some p =>
    rw [hp] at hany
    obtain ⟨hextra, hfield⟩ := of_decide_eq_true hany
    obtain ⟨path, hpath⟩ := Option.isSome_iff_exists.1 hfield
    exact ⟨p, path, rfl, hextra, hpath⟩

/-- No two quantities are the same field. -/
theorem eq_of_provenance?_eq {m' : Metric} (h : m ∈ quantities)
    (heq : m'.provenance? = m.provenance?) : m' = m := by
  have hall : ∀ m ∈ quantities, ∀ m' ∈ all, m'.provenance? = m.provenance? → m' = m := by
    decide +kernel
  exact hall m h m' m'.mem_all heq

end Metric

theorem draw_congr {entry entry' : Json} (hp : m.provenance? = some p)
    (hlabels : p.labels? entry = p.labels? entry')
    (hvalue : p.value.read? entry = p.value.read? entry') : m.draw entry = m.draw entry' := by
  unfold Metric.draw
  rw [hp, Option.bind_some, Option.bind_some, Provenance.sample?, Provenance.sample?, hlabels,
    hvalue]

theorem flatMap_eq_of_map_eq {α β γ : Type} {f : α → β} {g : α → List γ}
    (hg : ∀ a a', f a = f a' → g a = g a') {as as' : List α} (h : as.map f = as'.map f) :
    as.flatMap g = as'.flatMap g := by
  induction as generalizing as' with
  | nil =>
    obtain rfl := List.map_eq_nil_iff.1 h.symm
    rfl
  | cons a as ih =>
    obtain ⟨a', rest, rfl, ha, hrest⟩ := List.map_eq_cons_iff.1 h.symm
    rw [List.flatMap_cons, List.flatMap_cons, hg a a' ha.symm, ih hrest.symm]

namespace Records

/-- A quantity has a series for the labels of a part if some entry with these labels has its field,
and the value is that of the last such entry. No other quantity is the same field, and the labels
and the fields of the entries determine the family. -/
theorem quantity_is_the_field_of_the_last_entry (h : m ∈ Metric.quantities) (r : Records)
    (hstage : m.stage = r.stage) (b : Board) :
    ∃ p path, m.provenance? = some p ∧ p.labels.map (·.name) = m.family.labels ∧
      p.extra = [] ∧ p.value.field? = some path ∧ (∀ m', m'.provenance? = some p → m' = m) ∧
      (∀ entry ∈ r.entries p.part, ∃ labels, p.labels? entry = some labels) ∧
      (((b.publish r.stage r.samples).family m).map Prod.fst).Nodup ∧
      (∀ labels, (∃ value, (labels, value) ∈ (b.publish r.stage r.samples).family m) ↔
        ∃ entry ∈ r.entries p.part,
          p.labels? entry = some labels ∧ (p.value.read? entry).isSome) ∧
      (∀ labels value, (labels, value) ∈ (b.publish r.stage r.samples).family m ↔
        p.Shows (r.entries p.part) labels value) ∧
      ∀ (r' : Records) (b' : Board), r'.stage = r.stage →
        ((r'.entries p.part).map fun entry => (p.labels? entry, entry.at? path)) =
          ((r.entries p.part).map fun entry => (p.labels? entry, entry.at? path)) →
        (b'.publish r'.stage r'.samples).family m = (b.publish r.stage r.samples).family m := by
  obtain ⟨p, path, hp, hextra, hfield⟩ := Metric.exists_field h
  have hshows : ∀ labels value, (labels, value) ∈ (b.publish r.stage r.samples).family m ↔
      p.Shows (r.entries p.part) labels value := fun _ _ => r.mem_family_iff b hp hstage
  refine ⟨p, path, hp, m.names_provenance hp, hextra, hfield, ?_, ?_, Board.nodup_family _ m, ?_,
    hshows, ?_⟩
  · intro m' hm'
    exact Metric.eq_of_provenance?_eq h (hm'.trans hp.symm)
  · intro entry hentry
    obtain ⟨labels, hlabels⟩ := r.exists_identity hentry
    refine ⟨labels, ?_⟩
    rw [p.labels?_eq hlabels, hextra]
    exact congrArg some (List.append_nil labels)
  · intro labels
    simp only [hshows]
    exact Provenance.exists_shows_iff
  -- the samples of the family are drawn from the labels and the field alone
  · intro r' b' hstage' hentries
    rw [hstage']
    refine Board.family_publish_congr hstage ?_ b' b
    rw [r'.filter_samples hp (hstage.trans hstage'.symm), r.filter_samples hp hstage]
    refine flatMap_eq_of_map_eq (fun entry entry' heq => ?_) hentries
    obtain ⟨hlabels, hat⟩ := Prod.mk.inj heq
    exact draw_congr hp hlabels (ValueSource.read?_congr hfield hat)

/-- A node whose load is known is found again with a load of two numbers. -/
theorem load_stays_that_of_first_entry :
    let node (loads : List Double) : NodeRecord :=
      ⟨⟨"n", none, none, none⟩, ⟨none, some ⟨none, [], loads, none, none, none, none⟩, none⟩, []⟩
    let r : Records := .nodes [node [.ofInt 1, .ofInt 2, .ofInt 3], node [.ofInt 4, .ofInt 5]]
    .node .load5 ∈ Metric.quantities ∧ (Metric.node .load5).stage = r.stage ∧
      (["n", "", "n"], Double.ofInt 2) ∈
        (Board.blank.publish r.stage r.samples).family (.node .load5) := by
  intro node r
  have hquantity : .node .load5 ∈ Metric.quantities := by decide
  obtain ⟨p, path, hp, -, -, -, -, -, -, -, hshows, -⟩ :=
    quantity_is_the_field_of_the_last_entry hquantity r rfl .blank
  obtain rfl := Option.some.inj hp
  refine ⟨hquantity, rfl, (hshows _ _).2 ?_⟩
  -- the first node shows, as the second has no three numbers
  refine ⟨[], _, _, rfl, rfl, rfl, fun other hother _ => ?_⟩
  obtain rfl := List.mem_singleton.1 hother
  rfl

end Records

end FabricGauges
