import FabricGauges.Proofs.Text.Form
import FabricGauges.Proofs.Url.Origin
import FabricGauges.Proofs.Url.Path

/-!
# The query that is asked for

The query of what is asked for is a form. It begins behind the first question mark, since the path
of a URL holds none: what is kept of a segment is escaped. Pairs that are added to a URL are read
behind those of its own query.
-/

namespace FabricGauges.Url

open Text

/-- The pairs that are read in what is asked for. -/
def pairsIn (target : String) : List (String × String) :=
  Form.readPairs ((target.toList.dropWhile (· ≠ '?')).drop 1)

/-! ## Paths without question marks -/

/-- What holds of empty and of escaped segments holds of all that are kept. -/
theorem forall_resolve {P : List Char → Prop} (hempty : P [])
    (hescaped : ∀ s, P (Percent.encode isPathEscaped s)) (segments : List (List Char)) :
    ∀ kept, (∀ s ∈ kept, P s) → ∀ s ∈ resolve kept segments, P s := by
  induction segments with
  | nil => exact fun kept hkept => hkept
  | cons first rest ih =>
    intro kept hkept
    -- behind a dot segment at the end an empty segment is left
    have hending : ∀ s ∈ if rest.isEmpty then [([] : List Char)] else [], P s := by
      split_ifs
      · exact List.forall_mem_singleton.2 hempty
      · exact List.forall_mem_nil P
    rw [resolve]
    by_cases hup : plainDots first = ['.', '.']
    · have hdrop : ∀ s ∈ kept.dropLast, P s := fun s hs =>
        hkept s ((List.dropLast_sublist kept).subset hs)
      rw [if_pos hup]
      exact ih _ (List.forall_mem_append.2 ⟨hdrop, hending⟩)
    · by_cases hstay : plainDots first = ['.']
      · rw [if_neg hup, if_pos hstay]
        exact ih _ (List.forall_mem_append.2 ⟨hkept, hending⟩)
      · have hsegment : ∀ s ∈ [Percent.encode isPathEscaped first], P s :=
          List.forall_mem_singleton.2 (hescaped first)
        rw [if_neg hup, if_neg hstay]
        exact ih _ (List.forall_mem_append.2 ⟨hkept, hsegment⟩)

theorem mark_notMem_encode (s : List Char) : '?' ∉ Percent.encode isPathEscaped s := by
  intro hmark
  rcases Percent.mem_encode hmark with ⟨-, hkept⟩ | hpercent | hdigit
  · exact absurd hkept (by decide)
  · exact absurd hpercent (by decide)
  · exact absurd hdigit (by decide)

/-- No segment of a path holds a question mark. -/
theorem mark_notMem_readPath (s : List Char) : ∀ segment ∈ readPath s, '?' ∉ segment :=
  forall_resolve List.not_mem_nil mark_notMem_encode _ [] (List.forall_mem_nil _)

/-- The path and the query of a URL are those of what its text shows behind its origin. -/
theorem exists_tail {text : String} {u : Url} (h : ofText text = .ok u) :
    ∃ tail, tail ⊆ text.toList ∧ u.path = readPath (tail.takeWhile (!endsPath ·)) ∧
      u.query = readQuery (tail.dropWhile (!endsPath ·)) := by
  rw [ofText_eq] at h
  obtain ⟨o, tail, hvisible, htail⟩ := exists_origin h
  rw [hvisible, o.ofVisible_append htail] at h
  have hsub : tail ⊆ visible text.toList := by
    rw [hvisible]
    exact List.subset_append_right _ _
  have hseen : visible text.toList ⊆ text.toList := by
    rw [visible_eq]
    exact ((ended_sublist _).trans (List.dropWhile_sublist _)).subset
  exact ⟨tail, List.Subset.trans hsub hseen, Origin.path_query_of_url h⟩

/-- A text without a question mark has no query. -/
theorem query_eq_none {text : String} {u : Url} (h : ofText text = .ok u)
    (hmark : '?' ∉ text.toList) : u.query = none := by
  obtain ⟨tail, hsub, -, hquery⟩ := exists_tail h
  rw [hquery]
  cases hrest : tail.dropWhile (!endsPath ·) with
  | nil => rfl
  | cons c rest =>
    have hmem : c ∈ tail := (List.dropWhile_sublist _).subset (hrest ▸ List.mem_cons_self)
    have hne : c ≠ '?' := by
      rintro rfl
      exact hmark (hsub hmem)
    unfold readQuery
    split
    · rename_i heq
      exact absurd (List.cons.inj heq).1 hne
    · rfl

/-! ## Pairs behind a query -/

/-- Pairs that are added to a URL come behind those that it has. -/
theorem readPairs_addPairs (u : Url) (pairs : List (String × String)) :
    Form.readPairs ((u.addPairs pairs).query.getD []) =
      Form.readPairs (u.query.getD []) ++ pairs := by
  have hadded := Form.readPairs_encodePairs pairs
  have hget (query : List Char) : (if query.isEmpty then none else some query).getD [] = query := by
    cases query <;> rfl
  simp only [addPairs, hget]
  split
  · next hpresent =>
    rw [hadded, hpresent]
    rfl
  · next hadds _ =>
    rw [hadds] at hadded
    have hnil : pairs = [] := hadded.symm
    rw [hnil, List.append_nil]
  · rw [Form.readPairs_append, hadded]

/-- What is asked for is read as the query of the URL. -/
theorem pairsIn_target {u : Url} (h : ∀ segment ∈ u.path, '?' ∉ segment) :
    pairsIn u.target = Form.readPairs (u.query.getD []) := by
  have hpath : ∀ c ∈ u.path.flatMap ('/' :: ·), decide (c ≠ '?') = true := by
    intro c hc
    obtain ⟨segment, hsegment, hmem⟩ := List.mem_flatMap.1 hc
    rcases List.mem_cons.1 hmem with rfl | hmem
    · decide
    · refine decide_eq_true ?_
      rintro rfl
      exact h segment hsegment hmem
  rw [pairsIn, target, String.toList_ofList, List.dropWhile_append_of_pos hpath]
  cases u.query <;> rfl

/-- Pairs that are added to the URL of a text are read behind those of its own query. -/
theorem pairsIn_addPairs {text : String} {u : Url} (h : ofText text = .ok u)
    (pairs : List (String × String)) :
    pairsIn (u.addPairs pairs).target = Form.readPairs (u.query.getD []) ++ pairs := by
  obtain ⟨tail, -, hpath, -⟩ := exists_tail h
  rw [pairsIn_target, readPairs_addPairs]
  show ∀ segment ∈ u.path, '?' ∉ segment
  rw [hpath]
  exact mark_notMem_readPath _

end FabricGauges.Url
