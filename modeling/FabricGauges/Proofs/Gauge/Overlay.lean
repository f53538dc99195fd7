import FabricGauges.Proofs.Gauge.Family
import Mathlib.Data.List.Lattice
import Mathlib.Data.List.Nodup
import Mathlib.Data.List.Perm.Basic
import Mathlib.Logic.Function.Basic

/-!
# Boards by their values

What a board shows is a value for each of its series; the order in which the series came on it shows
nowhere. Setting values lays them over those that are there. Values of different series can be laid
over in either order, and so can whole lists of them, as long as they have no series in common.
-/

namespace FabricGauges

/-! ## Values laid over values -/

theorem findSome?_flatMap {α β γ : Type} (as : List α) (g : α → List β) (p : β → Option γ) :
    (as.flatMap g).findSome? p = as.findSome? fun a => (g a).findSome? p := by
  induction as with
  | nil => rfl
  | cons a as ih =>
    rw [List.flatMap_cons, List.findSome?_append, ih, List.findSome?_cons]
    cases (g a).findSome? p with
    | none => rfl
    | some c => rfl

section

variable {κ α : Type} [DecidableEq κ] {f g : κ → Option Double} {key : κ}
  {xs ys : List (κ × Double)}

/-- The values of some keys after others have been set, one after the other. -/
def overlay (f : κ → Option Double) (values : List (κ × Double)) : κ → Option Double :=
  values.foldl (fun f entry => Function.update f entry.1 (some entry.2)) f

/-- Values laid over one after another are laid over together. -/
theorem overlay_append : overlay f (xs ++ ys) = overlay (overlay f xs) ys := List.foldl_append

theorem overlay_cons (entry : κ × Double) :
    overlay f (entry :: xs) = overlay (Function.update f entry.1 (some entry.2)) xs := rfl

/-- What becomes of a key depends on its own value before, and on nothing else that was there. -/
theorem overlay_congr (h : f key = g key) : overlay f xs key = overlay g xs key := by
  induction xs generalizing f g with
  | nil => exact h
  | cons entry xs ih =>
    rw [overlay_cons, overlay_cons]
    apply ih
    by_cases hkey : key = entry.1
    · rw [hkey, Function.update_self, Function.update_self]
    · rw [Function.update_of_ne hkey, Function.update_of_ne hkey, h]

/-- A key that is not laid over keeps its value. -/
theorem overlay_of_notMem (h : key ∉ xs.map Prod.fst) : overlay f xs key = f key := by
  induction xs generalizing f with
  | nil => rfl
  | cons entry xs ih =>
    rw [List.map_cons, List.mem_cons, not_or] at h
    rw [overlay_cons, ih h.2, Function.update_of_ne h.1]

/-- The last value of a key. -/
def lastValue? (values : List (κ × Double)) (key : κ) : Option Double :=
  values.reverse.findSome? fun entry => if entry.1 = key then some entry.2 else none

/-- The last value of two lists is that of the second one, if it has any. -/
theorem lastValue?_append :
    lastValue? (xs ++ ys) key = (lastValue? ys key).or (lastValue? xs key) := by
  unfold lastValue?
  rw [List.reverse_append, List.findSome?_append]

theorem lastValue?_singleton (entry : κ × Double) :
    lastValue? [entry] key = if entry.1 = key then some entry.2 else none := by
  unfold lastValue?
  rw [List.reverse_singleton, List.findSome?_singleton]

/-- Values of other keys do not matter. -/
theorem lastValue?_filter {keep : κ × Double → Bool} (h : ∀ x ∈ xs, x.1 = key → keep x) :
    lastValue? (xs.filter keep) key = lastValue? xs key := by
  induction xs with
  | nil => rfl
  | cons x xs ih =>
    have hrest := ih fun y hy => h y (List.mem_cons_of_mem _ hy)
    rw [← List.singleton_append, List.filter_append, lastValue?_append, lastValue?_append, hrest]
    refine congrArg _ ?_
    by_cases hkeep : keep x
    · rw [List.filter_cons_of_pos hkeep, List.filter_nil]
    · have hne : ¬x.1 = key := fun hkey => hkeep (h x List.mem_cons_self hkey)
      rw [List.filter_cons_of_neg hkeep, List.filter_nil, lastValue?_singleton, if_neg hne]
      rfl

/-- A key has the last value that is set, or its own value before. -/
theorem overlay_apply : overlay f xs key = (lastValue? xs key).or (f key) := by
  induction xs generalizing f with
  | nil => rfl
  | cons entry xs ih =>
    rw [overlay_cons, ih, ← List.singleton_append, lastValue?_append, lastValue?_singleton,
      Option.or_assoc]
    by_cases hkey : entry.1 = key
    · rw [if_pos hkey, ← hkey, Function.update_self, Option.some_or]
    · rw [if_neg hkey, Function.update_of_ne (Ne.symm hkey), Option.none_or]

/-- The last value of a list of lists is found from its end. -/
theorem lastValue?_flatMap {values : α → List (κ × Double)} (as : List α) :
    lastValue? (as.flatMap values) key = as.reverse.findSome? fun a => lastValue? (values a) key := by
  unfold lastValue?
  rw [List.reverse_flatMap, findSome?_flatMap]
  rfl

/-- If a key has one value only, that is its last one. -/
theorem lastValue?_eq_some_iff {value : Double}
    (hvalues : ∀ v v', (key, v) ∈ xs → (key, v') ∈ xs → v = v') :
    lastValue? xs key = some value ↔ (key, value) ∈ xs := by
  have hmem : ∀ {v}, lastValue? xs key = some v → (key, v) ∈ xs := by
    intro v hlast
    obtain ⟨entry, hentry, hvalue⟩ := List.exists_of_findSome?_eq_some hlast
    obtain ⟨rfl, hv⟩ := Option.ite_none_right_eq_some.1 hvalue
    rw [← Option.some.inj hv]
    exact List.mem_reverse.1 hentry
  refine ⟨hmem, fun hvalue => ?_⟩
  cases hlast : lastValue? xs key with
  | none =>
    have hnone := List.findSome?_eq_none_iff.1 hlast (key, value) (List.mem_reverse.2 hvalue)
    rw [if_pos rfl] at hnone
    cases hnone
  | some v => rw [hvalues v value (hmem hlast) hvalue]

/-- Values without a key in common can be set in either order. -/
theorem overlay_comm (h : (xs.map Prod.fst).Disjoint (ys.map Prod.fst)) :
    overlay (overlay f xs) ys = overlay (overlay f ys) xs := by
  funext key
  by_cases hkey : key ∈ xs.map Prod.fst
  · have hother : key ∉ ys.map Prod.fst := fun hmem => h hkey hmem
    rw [overlay_of_notMem hother]
    exact overlay_congr (overlay_of_notMem hother).symm
  · rw [overlay_of_notMem hkey]
    exact overlay_congr (overlay_of_notMem hkey)

/-- Lists of values of which no two have a key in common can be set in any order. -/
theorem overlay_flatMap_perm {values : α → List (κ × Double)} {as as' : List α} (h : as.Perm as')
    (hdisjoint : as.Pairwise fun a b =>
      ((values a).map Prod.fst).Disjoint ((values b).map Prod.fst)) :
    overlay f (as.flatMap values) = overlay f (as'.flatMap values) := by
  induction h generalizing f with
  | nil => rfl
  | cons a _ ih =>
    rw [List.flatMap_cons, List.flatMap_cons, overlay_append, overlay_append]
    exact ih hdisjoint.of_cons
  | swap a b as =>
    have hswap := List.rel_of_pairwise_cons hdisjoint List.mem_cons_self
    rw [List.flatMap_cons, List.flatMap_cons, List.flatMap_cons, List.flatMap_cons,
      overlay_append, overlay_append, overlay_append, overlay_append, overlay_comm hswap]
  | trans hfirst _ ih ih' =>
    have hsymm := hfirst.pairwise_iff (fun h => List.Disjoint.symm h) |>.1 hdisjoint
    rw [ih hdisjoint, ih' hsymm]

end

namespace Series

variable {κ : Type} [DecidableEq κ] {s : Series κ} {key : κ} {value : Double}
  {entries : List (κ × Double)}

/-- With one entry for a key, having an entry means finding it. -/
theorem mem_iff_find? (h : (entries.map Prod.fst).Nodup) :
    (key, value) ∈ entries ↔
      (entries.find? fun entry => entry.1 = key).map Prod.snd = some value := by
  induction entries with
  | nil => simp
  | cons entry entries ih =>
    obtain ⟨hfirst, hrest⟩ := List.nodup_cons.1 h
    obtain ⟨key', value'⟩ := entry
    by_cases hkey : key' = key
    · subst hkey
      have hnot : (key', value) ∉ entries := fun hmem => hfirst (List.mem_map.2 ⟨_, hmem, rfl⟩)
      simp [hnot, eq_comm]
    · have hne : (key, value) ≠ (key', value') := fun h => hkey (Prod.mk.inj h).1.symm
      simp [hkey, hne, ih hrest]

/-- A key has the value of its entry: there is only one. -/
theorem mem_entries_iff : (key, value) ∈ s.entries ↔ s.value? key = some value :=
  mem_iff_find? s.nodup

/-- Setting an entry changes the value of its key alone. -/
theorem find?_setEntry (other : κ) :
    ((setEntry key value entries).find? fun entry => entry.1 = other).map Prod.snd =
      if other = key then some value
      else (entries.find? fun entry => entry.1 = other).map Prod.snd := by
  induction entries with
  | nil => by_cases h : other = key <;> simp [setEntry, h, eq_comm]
  | cons entry entries ih =>
    obtain ⟨key', value'⟩ := entry
    rw [setEntry]
    by_cases hkey : key' = key
    · by_cases h : other = key
      · simp [hkey, h]
      · simp [hkey, h, Ne.symm h]
    · rw [if_neg hkey]
      by_cases h : key' = other
      · have hother : other ≠ key := fun e => hkey (h.trans e)
        simp [h, hother]
      · simp [h, ih]

/-- Setting a series updates its value. -/
theorem value?_set : (s.set key value).value? = Function.update s.value? key (some value) := by
  funext other
  rw [Function.update_apply]
  exact find?_setEntry other

/-- Setting series lays their values over the old ones. -/
theorem value?_setAll (values : List (κ × Double)) :
    (s.setAll values).value? = overlay s.value? values := by
  induction values generalizing s with
  | nil => rfl
  | cons entry values ih =>
    rw [overlay_cons, ← value?_set]
    exact ih

end Series

/-! ## Boards -/

/-- What a sample sets. -/
def Sample.entry (s : Sample) : SeriesKey × Double := ((s.metric, s.labels), s.value)

namespace Board

variable {b b' : Board}

/-- A family has the series whose values the board knows. -/
theorem mem_family_iff {m : Metric} {labels : List String} {value : Double} :
    (labels, value) ∈ b.family m ↔ b.series.value? (m, labels) = some value := by
  rw [← Series.mem_entries_iff, family_eq, List.mem_filterMap]
  constructor
  · intro h
    obtain ⟨⟨⟨metric, labels'⟩, value'⟩, hmem, hentry⟩ := h
    obtain ⟨rfl, hseries⟩ := Option.ite_none_right_eq_some.1 hentry
    obtain ⟨rfl, rfl⟩ := Prod.mk.inj (Option.some.inj hseries)
    exact hmem
  · intro hmem
    exact ⟨_, hmem, if_pos rfl⟩

/-- A family has one series for each of its label values. -/
theorem nodup_family (b : Board) (m : Metric) : ((b.family m).map Prod.fst).Nodup := by
  have hkeys : (b.series.entries.filterMap (entryOf m)).map Prod.fst =
      (b.series.entries.map Prod.fst).filterMap
        fun key => if key.1 = m then some key.2 else none := by
    rw [List.map_filterMap, List.filterMap_map]
    refine List.filterMap_congr fun entry _ => ?_
    unfold entryOf
    by_cases h : entry.1.1 = m <;> simp [h]
  rw [family_eq, hkeys]
  refine b.series.nodup.filterMap fun key key' labels h h' => ?_
  obtain ⟨hm, hlabels⟩ := Option.ite_none_right_eq_some.1 h
  obtain ⟨hm', hlabels'⟩ := Option.ite_none_right_eq_some.1 h'
  exact Prod.ext (hm.trans hm'.symm) (Option.some.inj (hlabels.trans hlabels'.symm))

/-- Samples that are set one after another are set together. -/
theorem setAll_append (b : Board) (samples samples' : List Sample) :
    b.setAll (samples ++ samples') = (b.setAll samples).setAll samples' := by
  unfold setAll Series.setAll
  rw [List.map_append, List.foldl_append]

theorem value?_setAll (b : Board) (samples : List Sample) :
    (b.setAll samples).series.value? = overlay b.series.value? (samples.map Sample.entry) :=
  Series.value?_setAll _

/-- A stage that is published shows the last value of each of its series. -/
theorem mem_family_publish_iff (b : Board) {stage : Stage} {samples : List Sample} {m : Metric}
    (h : m.stage = stage) {labels : List String} {value : Double} :
    (labels, value) ∈ (b.publish stage samples).family m ↔
      lastValue? (samples.map Sample.entry) (m, labels) = some value := by
  have hblank : Board.blank.series.value? (m, labels) = none := rfl
  rw [family_publish_of_stage_eq b samples h, mem_family_iff, value?_setAll, overlay_apply, hblank,
    Option.or_none]

/-- Two boards show the same: every family has the same series with the same values, and the two
gauges about the cycles agree. -/
structure SameSamples (b b' : Board) : Prop where
  families : ∀ m, (b.family m).Perm (b'.family m)
  scrapeError : b.scrapeError = b'.scrapeError
  scrapeDuration : b.scrapeDuration = b'.scrapeDuration

/-- Boards with the same values have the same families, up to order. -/
theorem perm_family_of_value? (h : b.series.value? = b'.series.value?) (m : Metric) :
    (b.family m).Perm (b'.family m) := by
  have hnodup : ∀ b : Board, (b.family m).Nodup := fun b => (b.nodup_family m).of_map _
  refine (List.perm_ext_iff_of_nodup (hnodup b) (hnodup b')).2 fun series => ?_
  obtain ⟨labels, value⟩ := series
  rw [mem_family_iff, mem_family_iff, h]

/-- Lists of samples of which no two have a series in common can be set in any order. -/
theorem sameSamples_setAll_perm {α : Type} {samples : α → List Sample} {as as' : List α}
    (h : as.Perm as')
    (hdisjoint : as.Pairwise fun a a' => ∀ s ∈ samples a, ∀ s' ∈ samples a', s.entry.1 ≠ s'.entry.1)
    (b : Board) :
    (b.setAll (as.flatMap samples)).SameSamples (b.setAll (as'.flatMap samples)) := by
  refine ⟨perm_family_of_value? ?_, rfl, rfl⟩
  rw [value?_setAll, value?_setAll, List.map_flatMap, List.map_flatMap]
  refine overlay_flatMap_perm h (hdisjoint.imp fun hne => ?_)
  intro key hkey hkey'
  rw [List.map_map] at hkey hkey'
  obtain ⟨s, hs, rfl⟩ := List.mem_map.1 hkey
  obtain ⟨s', hs', heq⟩ := List.mem_map.1 hkey'
  exact hne s hs s' hs' heq.symm

end Board

end FabricGauges
