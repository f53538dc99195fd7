import FabricGauges.Scraper.Basic

/-!
# Families of the board

What publishing does to one family. The families are independent of each other: setting a sample
changes its own family only, and what it makes of that depends on nothing else. So the families of a
stage that is published are what they would be on a blank board, and all others are as before.
-/

namespace FabricGauges

namespace Series

variable {κ : Type} [DecidableEq κ]

/-- An entry after a setting is an old one or the one that was set. -/
theorem mem_of_mem_setEntry {key : κ} {value : Double} {entries : List (κ × Double)}
    {e : κ × Double} (h : e ∈ setEntry key value entries) : e ∈ entries ∨ e = (key, value) := by
  induction entries with
  | nil => exact .inr (List.mem_singleton.1 h)
  | cons entry rest ih =>
    obtain ⟨other, old⟩ := entry
    rw [setEntry] at h
    split at h
    · rcases List.mem_cons.1 h with h | h
      · exact .inr h
      · exact .inl (List.mem_cons_of_mem _ h)
    · rcases List.mem_cons.1 h with h | h
      · exact .inl (h ▸ List.mem_cons_self)
      · exact (ih h).imp_left (List.mem_cons_of_mem _)

end Series

namespace Board

/-! ## Setting samples -/

/-- The part of a family that an entry of the board is. -/
def entryOf (m : Metric) (entry : SeriesKey × Double) : Option (List String × Double) :=
  if entry.1.1 = m then some (entry.1.2, entry.2) else none

theorem family_eq (b : Board) (m : Metric) : b.family m = b.series.entries.filterMap (entryOf m) :=
  rfl

/-- Sets a sample if it belongs to a family. -/
def setIn (m : Metric) (entries : List (List String × Double)) (s : Sample) :
    List (List String × Double) :=
  if s.metric = m then Series.setEntry s.labels s.value entries else entries

/-- Setting a series changes its own family alone. -/
theorem filterMap_setEntry (m : Metric) (s : Sample) (entries : List (SeriesKey × Double)) :
    (Series.setEntry (s.metric, s.labels) s.value entries).filterMap (entryOf m) =
      setIn m (entries.filterMap (entryOf m)) s := by
  unfold setIn
  induction entries with
  | nil =>
    by_cases hm : s.metric = m
    · simp [Series.setEntry, entryOf, hm]
    · simp [Series.setEntry, entryOf, hm]
  | cons entry rest ih =>
    obtain ⟨⟨metric, labels⟩, old⟩ := entry
    rw [Series.setEntry]
    by_cases hkey : (metric, labels) = (s.metric, s.labels)
    · obtain ⟨rfl, rfl⟩ := Prod.mk.inj hkey
      by_cases hm : s.metric = m
      · simp [entryOf, hm, Series.setEntry]
      · simp [entryOf, hm]
    · rw [if_neg hkey, List.filterMap_cons, List.filterMap_cons, ih]
      by_cases hmetric : metric = m
      · subst hmetric
        by_cases hm : s.metric = metric
        · -- the same family, so the labels must differ
          have hlabels : labels ≠ s.labels := fun h => hkey (by rw [h, hm])
          simp [entryOf, hm, Series.setEntry, hlabels]
        · simp [entryOf, hm]
      · simp [entryOf, hmetric]

/-- A family after samples is set from its own samples, one by one. -/
theorem family_setAll (b : Board) (samples : List Sample) (m : Metric) :
    (b.setAll samples).family m = samples.foldl (setIn m) (b.family m) := by
  induction samples generalizing b with
  | nil => rfl
  | cons s samples ih =>
    -- the first sample is set on its own, which is where the family may change
    show ((b.setAll [s]).setAll samples).family m = samples.foldl _ (setIn m (b.family m) s)
    rw [ih, family_eq, family_eq, ← filterMap_setEntry]
    rfl

/-- Setting samples makes of a family what it would make of it on any other board. -/
theorem family_setAll_congr {b b' : Board} {m : Metric} (h : b.family m = b'.family m)
    (samples : List Sample) : (b.setAll samples).family m = (b'.setAll samples).family m := by
  rw [family_setAll, family_setAll, h]

theorem foldl_setIn_of_ne {m : Metric} {samples : List Sample} (h : ∀ s ∈ samples, s.metric ≠ m)
    (entries : List (List String × Double)) : samples.foldl (setIn m) entries = entries := by
  induction samples with
  | nil => rfl
  | cons s samples ih =>
    have hs : setIn m entries s = entries := if_neg (h s List.mem_cons_self)
    rw [List.foldl_cons, hs]
    exact ih fun t ht => h t (List.mem_cons_of_mem _ ht)

theorem foldl_setIn_filter (m : Metric) (samples : List Sample)
    (entries : List (List String × Double)) :
    (samples.filter (·.metric = m)).foldl (setIn m) entries = samples.foldl (setIn m) entries := by
  induction samples generalizing entries with
  | nil => rfl
  | cons s samples ih =>
    by_cases hs : s.metric = m
    · rw [List.filter_cons_of_pos (by simpa using hs), List.foldl_cons, List.foldl_cons, ih]
    · have hsame : setIn m entries s = entries := if_neg hs
      rw [List.filter_cons_of_neg (by simpa using hs), List.foldl_cons, hsame, ih]

/-- A series of a family is an old one or a sample's. -/
theorem mem_of_mem_foldl_setIn {m : Metric} {samples : List Sample}
    {entries : List (List String × Double)} {e : List String × Double}
    (h : e ∈ samples.foldl (setIn m) entries) : e ∈ entries ∨ ⟨m, e.1, e.2⟩ ∈ samples := by
  induction samples generalizing entries with
  | nil => exact .inl h
  | cons s samples ih =>
    rcases ih h with h | h
    · unfold setIn at h
      split at h
      · next hm =>
        rcases Series.mem_of_mem_setEntry h with h | rfl
        · exact .inl h
        · exact .inr (by rw [← hm]; exact List.mem_cons_self)
      · exact .inl h
    · exact .inr (List.mem_cons_of_mem _ h)

/-- Every series of a board that was blank comes from one of the samples that were set. -/
theorem mem_of_mem_family_setAll {m : Metric} {samples : List Sample} {labels : List String}
    {value : Double} (h : (labels, value) ∈ (blank.setAll samples).family m) :
    ⟨m, labels, value⟩ ∈ samples := by
  rw [family_setAll] at h
  rcases mem_of_mem_foldl_setIn h with h | h
  · cases h
  · exact h

/-! ## Publishing a stage -/

/-- Clearing empties the families it names. -/
theorem family_clear (b : Board) (cleared : Metric → Bool) (m : Metric) :
    (b.clear cleared).family m = if cleared m then [] else b.family m := by
  have hkept : ∀ entry : SeriesKey × Double,
      (if !cleared entry.1.1 then entryOf m entry else none) =
        if cleared m then none else entryOf m entry := by
    intro entry
    by_cases hm : entry.1.1 = m
    · cases hcleared : cleared m <;> simp [hm, hcleared]
    · simp [entryOf, hm]
  show (b.series.entries.filter fun entry => !cleared entry.1.1).filterMap (entryOf m) = _
  rw [List.filterMap_filter, funext hkept]
  -- a family goes as a whole or stays as a whole
  cases cleared m with
  | true => exact List.filterMap_eq_nil_iff.2 fun entry _ => rfl
  | false => rfl

/-- Families are reset one after the other. -/
theorem reset_cons (b : Board) (f : Metric) (families : List Metric) :
    b.reset (f :: families) = (b.clear (· = f)).reset families := rfl

/-- A family that is reset is empty, and any other one stays as it is. -/
theorem family_reset (b : Board) (families : List Metric) (m : Metric) :
    (b.reset families).family m = if m ∈ families then [] else b.family m := by
  induction families generalizing b with
  | nil => rfl
  | cons f families ih =>
    rw [reset_cons, ih, family_clear]
    by_cases hm : m = f <;> simp [hm]

/-- The families of a stage are replaced by what its samples make of a blank board. -/
theorem family_publish_of_stage_eq (b : Board) {stage : Stage} (samples : List Sample) {m : Metric}
    (h : m.stage = stage) :
    (b.publish stage samples).family m = (blank.setAll samples).family m := by
  apply family_setAll_congr
  rw [family_reset, if_pos (Stage.mem_resets_iff.2 h)]
  rfl

/-- The families of other stages are as before, if the samples are those of the stage. -/
theorem family_publish_of_stage_ne (b : Board) {stage : Stage} {samples : List Sample}
    (hsamples : ∀ s ∈ samples, s.metric.stage = stage) {m : Metric} (h : m.stage ≠ stage) :
    (b.publish stage samples).family m = b.family m := by
  have hne : ∀ s ∈ samples, s.metric ≠ m := fun s hs e => h (e ▸ hsamples s hs)
  have hreset : m ∉ stage.resets := fun hm => h (Stage.mem_resets_iff.1 hm)
  rw [publish, family_setAll, foldl_setIn_of_ne hne, family_reset, if_neg hreset]

/-- What is shown of a family depends on the samples that are of the family only. -/
theorem family_publish_congr {stage : Stage} {m : Metric} {samples samples' : List Sample}
    (hstage : m.stage = stage)
    (h : samples.filter (·.metric = m) = samples'.filter (·.metric = m)) (b b' : Board) :
    (b.publish stage samples).family m = (b'.publish stage samples').family m := by
  rw [family_publish_of_stage_eq b _ hstage, family_publish_of_stage_eq b' _ hstage, family_setAll,
    family_setAll, ← foldl_setIn_filter, h, foldl_setIn_filter]

/-! ## Publishing several stages -/

/-- The board after several stages have been published. -/
def publishAll (b : Board) (published : List (Stage × List Sample)) : Board :=
  published.foldl (fun b p => b.publish p.1 p.2) b

/-- The samples of each stage are its own. -/
def Owned (published : List (Stage × List Sample)) : Prop :=
  ∀ p ∈ published, ∀ s ∈ p.2, s.metric.stage = p.1

/-- A stage that is not published keeps its families. -/
theorem family_publishAll_of_not_mem {b : Board} {published : List (Stage × List Sample)}
    (hown : Owned published) {m : Metric} (h : m.stage ∉ published.map Prod.fst) :
    (b.publishAll published).family m = b.family m := by
  induction published generalizing b with
  | nil => rfl
  | cons p published ih =>
    rw [List.map_cons, List.mem_cons, not_or] at h
    show ((b.publish p.1 p.2).publishAll published).family m = _
    rw [ih (fun q hq => hown q (List.mem_cons_of_mem _ hq)) h.2]
    exact family_publish_of_stage_ne b (hown p List.mem_cons_self) h.1

/-- A family holds what the samples of its stage make of a blank board, if no stage is published
twice. -/
theorem family_publishAll_of_mem {b : Board} {published : List (Stage × List Sample)}
    (hown : Owned published) (hnodup : (published.map Prod.fst).Nodup) {m : Metric}
    {samples : List Sample} (h : (m.stage, samples) ∈ published) :
    (b.publishAll published).family m = (blank.setAll samples).family m := by
  induction published generalizing b with
  | nil => cases h
  | cons p published ih =>
    have hrest : Owned published := fun q hq => hown q (List.mem_cons_of_mem _ hq)
    rw [List.map_cons, List.nodup_cons] at hnodup
    show ((b.publish p.1 p.2).publishAll published).family m = _
    -- its stage is published now, and by none of the later ones
    rcases List.mem_cons.1 h with rfl | h
    · rw [family_publishAll_of_not_mem hrest hnodup.1]
      exact family_publish_of_stage_eq b samples rfl
    · exact ih hrest hnodup.2 h

@[simp] theorem scrapeError_publishAll (b : Board) (published : List (Stage × List Sample)) :
    (b.publishAll published).scrapeError = b.scrapeError := by
  induction published generalizing b with
  | nil => rfl
  | cons p published ih => exact ih (b.publish p.1 p.2)

@[simp] theorem scrapeDuration_publishAll (b : Board) (published : List (Stage × List Sample)) :
    (b.publishAll published).scrapeDuration = b.scrapeDuration := by
  induction published generalizing b with
  | nil => rfl
  | cons p published ih => exact ih (b.publish p.1 p.2)

end Board

end FabricGauges
