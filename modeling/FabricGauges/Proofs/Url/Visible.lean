import FabricGauges.Text.Blank
import FabricGauges.Url.Authority
import Mathlib.Data.List.DropRight

/-!
# What is seen of a URL that goes on

Controls and blanks are not seen at the ends of a URL. Where more is written behind a text, what was
its end is in the middle, so that blanks there are seen, which they are not in the text alone.
-/

namespace FabricGauges.Url

/-- Whether a character is not seen at the ends of a URL. -/
def isFaint (c : Char) : Bool := c.toNat ≤ 0x20

/-- Whether a character is seen where it stands inside a URL. -/
def isSeen (c : Char) : Bool := c ≠ '\t' ∧ c ≠ '\n' ∧ c ≠ '\r'

/-- What is seen of a text behind which a URL goes on. -/
def begun (s : List Char) : List Char := (s.dropWhile isFaint).filter isSeen

/-- What is seen of a text with which a URL ends. -/
def ended (s : List Char) : List Char := (s.rdropWhile isFaint).filter isSeen

/-- Whether what is seen of a text, where more is written behind it, ends in a blank. -/
def endsFaint (s : List Char) : Bool := (s.filter isSeen).getLast?.any isFaint

/-- What holds of each of the controls and blanks of ASCII holds of those that a URL does not end
in. -/
theorem forall_faint {P : Char → Prop} (h : ∀ n < 0x21, P (Char.ofNat n)) {c : Char}
    (hc : isFaint c = true) : P c := by
  have hthis := h c.toNat (Nat.lt_succ_of_le (of_decide_eq_true hc))
  rwa [Char.ofNat_toNat] at hthis

theorem isSeen_of_not_isFaint {c : Char} (h : isFaint c = false) : isSeen c = true := by
  refine decide_eq_true ⟨?_, ?_, ?_⟩
  all_goals
    rintro rfl
    exact absurd h (by decide)

/-- What ends an authority is no blank. -/
theorem isFaint_of_endsAuthority {c : Char} (h : endsAuthority c = true) : isFaint c = false := by
  have hcases : (c = '/' ∨ c = '\\') ∨ c = '?' ∨ c = '#' := by
    simpa [endsAuthority, isSlash, endsPath] using h
  rcases hcases with (rfl | rfl) | rfl | rfl <;> decide

/-- What is no blank is not lost with the blanks before a text. -/
theorem mem_dropWhile_iff {s : List Char} {c : Char} (h : isFaint c = false) :
    c ∈ s.dropWhile isFaint ↔ c ∈ s := by
  refine ⟨fun hc => (List.dropWhile_sublist isFaint).subset hc, fun hc => ?_⟩
  rw [← List.takeWhile_append_dropWhile (p := isFaint) (l := s)] at hc
  refine (List.mem_append.1 hc).resolve_left fun htake => ?_
  rw [List.mem_takeWhile_imp htake] at h
  cases h

theorem visible_eq (s : List Char) : visible s = ended (s.dropWhile isFaint) := rfl

/-! ## The end of a URL -/

/-- What stands before a character that is no blank is not at the end. -/
theorem rdropWhile_append_cons {c : Char} (h : isFaint c = false) (s t : List Char) :
    (s ++ c :: t).rdropWhile isFaint = s ++ (c :: t).rdropWhile isFaint := by
  have hc : ¬ isFaint c = true := by simp [h]
  induction t using List.reverseRecOn with
  | nil => rw [List.rdropWhile_concat_neg _ _ _ hc, List.rdropWhile_singleton, if_neg hc]
  | append_singleton t d ih =>
    rw [← List.cons_append, ← List.append_assoc, List.rdropWhile_concat, List.rdropWhile_concat, ih]
    split_ifs
    · rfl
    · rw [List.append_assoc]

/-- The end of a URL begins with its first character that is no blank. -/
theorem ended_cons {c : Char} (h : isFaint c = false) (s : List Char) :
    ended (c :: s) = c :: ended s := by
  have hrest : (c :: s).rdropWhile isFaint = c :: s.rdropWhile isFaint := by
    induction s using List.reverseRecOn with
    | nil => simp [List.rdropWhile_singleton, h]
    | append_singleton s d ih =>
      rw [← List.cons_append, List.rdropWhile_concat, List.rdropWhile_concat, ih]
      split_ifs <;> rfl
  rw [ended, hrest, List.filter_cons_of_pos (isSeen_of_not_isFaint h), ended]

/-- A path ends a URL from its first slash on. -/
theorem ended_slash (s : List Char) : ended ('/' :: s) = '/' :: ended s := ended_cons (by decide) s

theorem ended_sublist (s : List Char) : (ended s).Sublist s :=
  List.filter_sublist.trans (List.rdropWhile_prefix _ _).sublist

theorem isSeen_of_mem_ended {s : List Char} {c : Char} (h : c ∈ ended s) : isSeen c = true :=
  (List.mem_filter.1 h).2

/-- No end of a URL ends in a blank. -/
theorem not_isFaint_of_mem_getLast?_ended {s : List Char} {c : Char} (h : c ∈ (ended s).getLast?) :
    isFaint c = false := by
  rcases List.eq_nil_or_concat' (s.rdropWhile isFaint) with hnil | ⟨init, last, hlast⟩
  · simp [ended, hnil] at h
  · have hfaint : isFaint last = false := by
      have hne : s.rdropWhile isFaint ≠ [] := by simp [hlast]
      have hnot := List.rdropWhile_last_not isFaint s hne
      simpa [hlast] using hnot
    have hc : last = c := by
      simpa [ended, hlast, List.filter_cons_of_pos (isSeen_of_not_isFaint hfaint)] using h
    rwa [← hc]

/-- An end of a URL that is all seen. -/
theorem ended_eq_self {s : List Char} (hseen : ∀ c ∈ s, isSeen c = true)
    (hlast : ∀ c ∈ s.getLast?, isFaint c = false) : ended s = s := by
  have hend : s.rdropWhile isFaint = s := by
    rw [List.rdropWhile_eq_self_iff]
    intro hne
    rw [hlast _ (List.getLast?_eq_some_getLast hne)]
    simp
  rw [ended, hend, List.filter_eq_self]
  exact hseen

/-! ## A text that goes on -/

/-- What is written behind a text is seen behind what is seen of it. -/
theorem visible_append {c : Char} (h : isFaint c = false) (s t : List Char) :
    visible (s ++ c :: t) = begun s ++ ended (c :: t) := by
  have hbegin : (s ++ c :: t).dropWhile isFaint = s.dropWhile isFaint ++ c :: t := by
    rw [List.dropWhile_append]
    split_ifs with hs
    · rw [List.isEmpty_iff.1 hs, List.dropWhile_cons_of_neg (by simp [h]), List.nil_append]
    · rfl
  rw [visible_eq, hbegin, ended, rdropWhile_append_cons h, List.filter_append]
  rfl

/-- The blanks at the end of a text that are seen where more is written behind it. -/
def blanks (s : List Char) : List Char := ((s.dropWhile isFaint).rtakeWhile isFaint).filter isSeen

/-- What is seen of a text where more is written behind it: what is seen of the text alone, and the
blanks at its end. -/
theorem begun_eq (s : List Char) : begun s = visible s ++ blanks s := by
  rw [visible_eq, begun, ended, blanks, ← List.filter_append, List.rdropWhile_append_rtakeWhile]

theorem isFaint_of_mem_blanks {s : List Char} {c : Char} (h : c ∈ blanks s) : isFaint c = true :=
  List.mem_rtakeWhile_imp (List.mem_filter.1 h).1

/-- A text of which something is seen ends in a blank if there are blanks at its end. -/
theorem blanks_eq_nil_iff {s : List Char} (h : visible s ≠ []) :
    blanks s = [] ↔ endsFaint s = false := by
  have hsplit : s.filter isSeen = (s.takeWhile isFaint).filter isSeen ++ (visible s ++ blanks s) := by
    rw [← begun_eq, begun, ← List.filter_append, List.takeWhile_append_dropWhile]
  rcases List.eq_nil_or_concat' (blanks s) with hnil | ⟨init, last, hlast⟩
  · obtain ⟨init, last, hvisible⟩ := (List.eq_nil_or_concat' (visible s)).resolve_left h
    have hfaint : isFaint last = false := by
      apply not_isFaint_of_mem_getLast?_ended (s := s.dropWhile isFaint)
      simp [← visible_eq, hvisible]
    simp [hnil, endsFaint, hsplit, hvisible, ← List.append_assoc, hfaint]
  · have hfaint : isFaint last = true := isFaint_of_mem_blanks (s := s) (by simp [hlast])
    simp [hlast, endsFaint, hsplit, ← List.append_assoc, hfaint]

end FabricGauges.Url
