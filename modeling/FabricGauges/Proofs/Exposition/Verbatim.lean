import FabricGauges.Gauge.Exposition
import FabricGauges.Proofs.Exposition.Grammar

/-!
# Names and texts written as they are

A name or a text that is written without escaping is read back in exactly one case, namely when the
grammar allows it as it stands. For a name this is plain. The reader of an escaped text might also
go past the end of what was written, if a backslash hides the closing quotation mark; but then it
has read more quotation marks than there were in the text. So a text is read back only if nothing in
it has been taken for an escape.
-/

namespace FabricGauges.OpenMetrics

/-! ## Names -/

/-- What can be read as a name is one. -/
theorem isName_of_readName {start part : Char → Bool} {name s t : List Char}
    (h : readName start part (name ++ s) = some (name, t)) : isName start part name := by
  cases name with
  | nil =>
    cases s with
    | nil => cases h
    | cons c s =>
      -- what is read has a first character
      simp only [readName, List.nil_append, Option.ite_none_right_eq_some, Option.some.injEq,
        Prod.mk.injEq, reduceCtorEq, false_and, and_false] at h
  | cons c name =>
    simp only [readName, List.cons_append, Option.ite_none_right_eq_some, Option.some.injEq,
      Prod.mk.injEq, List.cons.injEq, true_and] at h
    obtain ⟨hstart, htake, -⟩ := h
    have hpart : name.all part := by
      have hall : ((name ++ s).takeWhile part).all part := List.all_takeWhile
      rwa [htake] at hall
    exact Bool.and_eq_true_iff.2 ⟨hstart, hpart⟩

/-- A name is read up to a character that is no part of it. -/
theorem readName_of_isName {start part : Char → Bool} {name s : List Char}
    (hs : ∀ c, s.head? = some c → ¬part c) (h : isName start part name) :
    readName start part (name ++ s) = some (name, s) := by
  cases name with
  | nil => cases h
  | cons c name =>
    obtain ⟨hstart, hall⟩ := Bool.and_eq_true_iff.1 h
    have hpart : ∀ d ∈ name, part d := List.all_eq_true.1 hall
    have hrest : s.takeWhile part = [] ∧ s.dropWhile part = s := by
      cases s with
      | nil => exact ⟨rfl, rfl⟩
      | cons d s =>
        have hd : ¬part d := hs d rfl
        exact ⟨List.takeWhile_cons_of_neg hd, List.dropWhile_cons_of_neg hd⟩
    rw [List.cons_append, readName, if_pos hstart, List.takeWhile_append_of_pos hpart,
      List.dropWhile_append_of_pos hpart, hrest.1, hrest.2, List.append_nil]

/-- A name that is written as it is is read back if it is one. -/
theorem readName_append_iff {start part : Char → Bool} {name s t : List Char}
    (hs : ∀ c, s.head? = some c → ¬part c) :
    readName start part (name ++ s) = some (name, t) ↔ isName start part name ∧ t = s := by
  constructor
  · intro h
    have hname := isName_of_readName h
    rw [readName_of_isName hs hname] at h
    exact ⟨hname, (Prod.mk.inj (Option.some.inj h)).2.symm⟩
  · intro h
    obtain ⟨hname, rfl⟩ := h
    exact readName_of_isName hs hname

/-! ## Escaped text -/

/-- Whether a backslash stands for itself when this character comes next in the text. -/
def keepsBackslash (c : Char) : Bool := c ≠ 'n' && c ≠ '"' && c ≠ '\\' && c ≠ '\n'

/-- Whether a text stands for itself: it has no quotation marks and no line feeds, and each
backslash is followed by a character with which it has no meaning. -/
def isPlain : List Char → Bool
  | [] => true
  | c :: s =>
    c ≠ '"' && c ≠ '\n' && (c ≠ '\\' || s.head?.any keepsBackslash) && isPlain s

/-- A text is plain if no quotation mark or line feed is in it and each backslash stands for itself.
-/
theorem isPlain_cons {c : Char} {s : List Char} :
    isPlain (c :: s) ↔ c ≠ '"' ∧ c ≠ '\n' ∧ (c = '\\' → s.head?.any keepsBackslash) ∧
      isPlain s := by
  simp only [isPlain, Bool.and_eq_true, Bool.or_eq_true, decide_eq_true_eq, ne_eq, and_assoc,
    imp_iff_not_or]

/-- Whether a character stands for itself wherever it comes. -/
def isHarmless (c : Char) : Bool := c ≠ '"' && c ≠ '\n' && c ≠ '\\'

/-- A text of harmless characters is plain. -/
theorem isPlain_of_all_isHarmless {s : List Char} (h : s.all isHarmless) : isPlain s := by
  induction s with
  | nil => rfl
  | cons c s ih =>
    obtain ⟨hc, hs⟩ := Bool.and_eq_true_iff.1 h
    simp only [isHarmless, Bool.and_eq_true, decide_eq_true_eq] at hc
    obtain ⟨⟨hquote, hnewline⟩, hbackslash⟩ := hc
    exact isPlain_cons.2 ⟨hquote, hnewline, fun hc => absurd hc hbackslash, ih hs⟩

theorem ne_backslash_of_keepsBackslash {c : Char} (h : keepsBackslash c) : c ≠ '\\' := by
  intro h
  subst h
  exact absurd h (by decide)

/-- A value ends at a quotation mark or at the end of the line. -/
theorem readEscaped_stop {c : Char} (hc : c = '"' ∨ c = '\n') (s : List Char) :
    readEscaped (c :: s) = ([], c :: s) := by
  rw [readEscaped.eq_def]
  exact if_pos hc

/-- A character that is not special is read as itself. -/
theorem readEscaped_char {c : Char} (hquote : c ≠ '"') (hnewline : c ≠ '\n')
    (hbackslash : c ≠ '\\') {s : List Char} :
    readEscaped (c :: s) = (c :: (readEscaped s).1, (readEscaped s).2) := by
  rw [readEscaped.eq_def]
  dsimp only
  rw [if_neg (by simp [hquote, hnewline]), if_neg hbackslash]

/-- A backslash and the next character are read together. -/
theorem readEscaped_escape {c : Char} (hc : c ≠ '\n') {s : List Char} :
    readEscaped ('\\' :: c :: s) = (unescape c ++ (readEscaped s).1, (readEscaped s).2) := by
  rw [readEscaped.eq_def]
  exact if_neg hc

theorem unescape_of_keepsBackslash {c : Char} (h : keepsBackslash c) : unescape c = ['\\', c] := by
  simp only [keepsBackslash, Bool.and_eq_true, decide_eq_true_eq] at h
  obtain ⟨⟨⟨hn, hquote⟩, hbackslash⟩, -⟩ := h
  rw [unescape, if_neg hn, if_neg (by simp [hquote, hbackslash])]

/-- Escapes do not hide quotation marks. -/
theorem count_unescape (c : Char) : (unescape c).count '"' = ['\\', c].count '"' := by
  unfold unescape
  split
  · next h => subst h; decide
  · split
    · next h => rcases h with rfl | rfl <;> decide
    · rfl

/-- An escape stands for two characters at most. -/
theorem length_unescape (c : Char) : (unescape c).length ≤ 2 := by
  unfold unescape
  split
  · decide
  · split <;> simp

/-- An escape that stands for two characters stands for itself. -/
theorem keepsBackslash_of_length {c : Char} (hc : c ≠ '\n') (h : (unescape c).length = 2) :
    unescape c = ['\\', c] ∧ keepsBackslash c := by
  unfold unescape at h ⊢
  split at h
  · cases h
  · next hn =>
    split at h
    · cases h
    · next hq =>
      rw [if_neg hn, if_neg hq]
      push Not at hq
      exact ⟨rfl, by simp [keepsBackslash, hn, hq, hc]⟩

/-- What the reader has taken from a text, and what it has made of that. -/
structure Scanned (taken value : List Char) : Prop where
  count_eq : value.count '"' = taken.count '"'
  newline_notMem : '\n' ∉ taken
  length_le : value.length ≤ taken.length
  plain_of_length : value.length = taken.length → value = taken ∧ isPlain taken

namespace Scanned

theorem nil : Scanned [] [] := ⟨rfl, List.not_mem_nil, Nat.le_refl _, fun _ => ⟨rfl, rfl⟩⟩

theorem plainChar {taken value : List Char} {c : Char} (h : Scanned taken value) (hquote : c ≠ '"')
    (hnewline : c ≠ '\n') (hbackslash : c ≠ '\\') : Scanned (c :: taken) (c :: value) where
  count_eq := by rw [List.count_cons, List.count_cons, h.count_eq]
  newline_notMem := by
    rw [List.mem_cons, not_or]
    exact ⟨hnewline.symm, h.newline_notMem⟩
  length_le := Nat.succ_le_succ h.length_le
  plain_of_length := by
    intro hlength
    obtain ⟨rfl, hplain⟩ := h.plain_of_length (Nat.succ.inj hlength)
    exact ⟨rfl, isPlain_cons.2 ⟨hquote, hnewline, fun hc => absurd hc hbackslash, hplain⟩⟩

theorem escape {taken value : List Char} {c : Char} (h : Scanned taken value) (hc : c ≠ '\n') :
    Scanned ('\\' :: c :: taken) (unescape c ++ value) where
  count_eq := by
    rw [List.count_append, count_unescape, h.count_eq, ← List.count_append]
    rfl
  newline_notMem := by
    rw [List.mem_cons, List.mem_cons, not_or, not_or]
    exact ⟨by decide, hc.symm, h.newline_notMem⟩
  length_le := by
    have hvalue := h.length_le
    have hescape := length_unescape c
    rw [List.length_append]
    show _ ≤ taken.length + 1 + 1
    omega
  -- nothing is lost in length only where the backslash stays
  plain_of_length := by
    intro hlength
    have hvalue := h.length_le
    have hescape := length_unescape c
    rw [List.length_append] at hlength
    change (unescape c).length + value.length = taken.length + 1 + 1 at hlength
    obtain ⟨heq, hkeeps⟩ := keepsBackslash_of_length hc (by omega)
    obtain ⟨rfl, hplain⟩ := h.plain_of_length (by omega)
    have hbackslash := ne_backslash_of_keepsBackslash hkeeps
    have hquote : c ≠ '"' := by
      intro h
      subst h
      exact absurd hkeeps (by decide)
    rw [heq]
    refine ⟨rfl, isPlain_cons.2 ⟨by decide, by decide, fun _ => hkeeps, ?_⟩⟩
    exact isPlain_cons.2 ⟨hquote, hc, fun h => absurd h hbackslash, hplain⟩

end Scanned

/-- What is read as a value has been scanned. -/
theorem scanned_readEscaped (s : List Char) :
    ∃ taken, s = taken ++ (readEscaped s).2 ∧ Scanned taken (readEscaped s).1 := by
  induction s using readEscaped.induct with
  | case1 => exact ⟨[], rfl, .nil⟩
  | case2 c s hstop =>
    rw [readEscaped_stop hstop]
    exact ⟨[], rfl, .nil⟩
  | case3 _ => exact ⟨[], rfl, .nil⟩
  | case4 s _ => exact ⟨[], rfl, .nil⟩
  | case5 c s hc _ ih =>
    obtain ⟨taken, hs, hscanned⟩ := ih
    rw [readEscaped_escape hc]
    exact ⟨'\\' :: c :: taken, congrArg ('\\' :: c :: ·) hs, hscanned.escape hc⟩
  | case6 c s hstop hc ih =>
    obtain ⟨taken, hs, hscanned⟩ := ih
    push Not at hstop
    rw [readEscaped_char hstop.1 hstop.2 hc]
    exact ⟨c :: taken, congrArg (c :: ·) hs, hscanned.plainChar hstop.1 hstop.2 hc⟩

/-- A text that is taken for itself is plain, and the reader stops where it ends. -/
theorem isPlain_of_readEscaped {v s t : List Char} {q : Char} (hq : q = '"' ∨ q = '\n')
    (h : readEscaped (v ++ q :: s) = (v, q :: t)) : isPlain v ∧ t = s := by
  obtain ⟨taken, htaken, hscanned⟩ := scanned_readEscaped (v ++ q :: s)
  rw [h] at htaken hscanned
  dsimp only at htaken hscanned
  -- as much has been taken as was written, which leaves no room for an escape
  have hlength : v.length = taken.length := by
    by_contra hne
    have hlt : v.length < taken.length := Nat.lt_of_le_of_ne hscanned.length_le hne
    -- more has been taken than the text, so the character that closes it as well
    obtain ⟨more, rfl⟩ : ∃ more, taken = v ++ q :: more := by
      rcases List.append_eq_append_iff.1 htaken with ⟨a, ha, hmore⟩ | ⟨a, ha, -⟩
      · cases a with
        | nil =>
          rw [ha, List.append_nil] at hlt
          exact absurd hlt (Nat.lt_irrefl _)
        | cons c a =>
          obtain ⟨rfl, -⟩ := List.cons.inj hmore
          exact ⟨a, ha⟩
      · rw [ha, List.length_append] at hlt
        omega
    rcases hq with rfl | rfl
    · -- no quotation mark gets lost, so the value would have one more than the text
      have hcount := hscanned.count_eq
      rw [List.count_append, List.count_cons_self] at hcount
      omega
    · exact hscanned.newline_notMem (by simp)
  obtain ⟨rfl, hplain⟩ := hscanned.plain_of_length hlength
  have hrest := List.append_cancel_left htaken
  exact ⟨hplain, (List.cons.inj hrest).2.symm⟩

/-- A plain text is read as itself up to what ends it. -/
theorem readEscaped_of_isPlain {v : List Char} {q : Char} (hq : q = '"' ∨ q = '\n')
    (hv : isPlain v) (s : List Char) : readEscaped (v ++ q :: s) = (v, q :: s) := by
  induction v with
  | nil => exact readEscaped_stop hq s
  | cons c v ih =>
    obtain ⟨hquote, hnewline, hnext, hplain⟩ := isPlain_cons.1 hv
    have hread := ih hplain
    by_cases hc : c = '\\'
    · subst hc
      cases v with
      | nil => exact absurd (hnext rfl) (by decide)
      | cons d v =>
        -- the backslash takes the next character with it
        have hd : keepsBackslash d := hnext rfl
        obtain ⟨hdquote, hdnewline, -, -⟩ := isPlain_cons.1 hplain
        have hdbackslash := ne_backslash_of_keepsBackslash hd
        rw [List.cons_append, readEscaped_char hdquote hdnewline hdbackslash] at hread
        obtain ⟨hvalue, hrest⟩ := Prod.mk.inj hread
        rw [List.cons_append, List.cons_append, readEscaped_escape hdnewline, hrest,
          unescape_of_keepsBackslash hd]
        exact congrArg (fun w => ('\\' :: w, q :: s)) hvalue
    · rw [List.cons_append, readEscaped_char hquote hnewline hc, hread]

/-- A text that is written as it is is read back if it is plain. -/
theorem readEscaped_append_iff {v s t : List Char} {q : Char} (hq : q = '"' ∨ q = '\n') :
    readEscaped (v ++ q :: s) = (v, q :: t) ↔ isPlain v ∧ t = s := by
  constructor
  · exact isPlain_of_readEscaped hq
  · intro h
    obtain ⟨hv, rfl⟩ := h
    exact readEscaped_of_isPlain hq hv t

/-! ## Labels -/

/-- The name and the value of a label can be written as they are. -/
def LegibleLabel (l : String × String) : Prop :=
  isName isLabelStart isLabelPart l.1.toList ∧ isPlain l.2.toList

/-- The text of a label. -/
def labelText (l : String × String) : List Char := (Exposition.label l.1 l.2).toList

theorem labelText_append (l : String × String) (s : List Char) :
    labelText l ++ s = l.1.toList ++ '=' :: '"' :: (l.2.toList ++ '"' :: s) := by
  unfold labelText Exposition.label
  simp

theorem not_isLabelPart_equals (s : List Char) :
    ∀ c, ('=' :: s).head? = some c → ¬isLabelPart c := by
  intro c hc
  obtain rfl := Option.some.inj hc
  decide

/-- A label is read back if it is legible, and then what stood behind it is left. -/
theorem readLabel_append_iff (l : String × String) (s t : List Char) :
    readLabel (labelText l ++ s) = some (l, t) ↔ LegibleLabel l ∧ t = s := by
  rw [labelText_append]
  have hend := not_isLabelPart_equals ('"' :: (l.2.toList ++ '"' :: s))
  constructor
  · intro h
    unfold readLabel at h
    -- the name up to the equals sign, and the value between quotation marks
    obtain ⟨⟨name, rest⟩, hname, h⟩ := Option.bind_eq_some_iff.1 h
    dsimp only at h
    split at h
    · next rest =>
      split at h
      · next value rest' hvalue =>
        obtain ⟨hl, rfl⟩ := Prod.mk.inj (Option.some.inj h)
        obtain rfl : name = l.1.toList := by rw [← hl, String.toList_ofList]
        obtain rfl : value = l.2.toList := by rw [← hl, String.toList_ofList]
        obtain ⟨hisName, hrest⟩ := (readName_append_iff hend).1 hname
        obtain rfl : rest = l.2.toList ++ '"' :: s := (List.cons.inj (List.cons.inj hrest).2).2
        obtain ⟨hplain, rfl⟩ := (readEscaped_append_iff (.inl rfl)).1 hvalue
        exact ⟨⟨hisName, hplain⟩, rfl⟩
      · cases h
    · cases h
  · intro h
    obtain ⟨⟨hname, hvalue⟩, rfl⟩ := h
    unfold readLabel
    have hread := (readEscaped_append_iff (s := t) (.inl rfl)).2 ⟨hvalue, rfl⟩
    rw [(readName_append_iff hend).2 ⟨hname, rfl⟩, Option.bind_eq_bind, Option.bind_some]
    simp only [hread]
    show some ((String.ofList l.1.toList, String.ofList l.2.toList), t) = some (l, t)
    rw [String.ofList_toList, String.ofList_toList]

/-- The texts of labels with commas between them. -/
def labelsText (ls : List (String × String)) : List Char :=
  [','].intercalate (ls.map labelText)

theorem labelsText_cons_cons (l l' : String × String) (ls : List (String × String)) :
    labelsText (l :: l' :: ls) = labelText l ++ ',' :: labelsText (l' :: ls) := by
  show [','].intercalate (labelText l :: labelText l' :: ls.map labelText) = _
  rw [List.intercalate_cons_cons, List.append_assoc]
  rfl

/-- After a label comes the closing brace or a comma with more labels. -/
theorem readLabelList_eq_some {n : Nat} {s t : List Char} {l : String × String}
    {ls : List (String × String)} :
    readLabelList (n + 1) s = some (l :: ls, t) ↔
      ∃ rest, readLabel s = some (l, rest) ∧ (rest = '}' :: t ∧ ls = [] ∨
        ∃ more, rest = ',' :: more ∧ readLabelList n more = some (ls, t)) := by
  constructor
  · intro h
    obtain ⟨⟨l', rest⟩, hl, h⟩ := Option.bind_eq_some_iff.1 h
    dsimp only at h
    split at h
    · next more =>
      obtain ⟨⟨ls', t'⟩, hls, h⟩ := Option.map_eq_some_iff.1 h
      cases h
      exact ⟨_, hl, .inr ⟨more, rfl, hls⟩⟩
    · cases h
      exact ⟨_, hl, .inl ⟨rfl, rfl⟩⟩
    · cases h
  · intro h
    obtain ⟨rest, hl, ⟨rfl, rfl⟩ | ⟨more, rfl, hls⟩⟩ := h
    · rw [readLabelList, hl]
      rfl
    · rw [readLabelList, hl]
      show (readLabelList n more).map _ = _
      rw [hls]
      rfl

/-- Labels are read back if each of them can be written as it is. -/
theorem readLabelList_append_iff {ls : List (String × String)} (hne : ls ≠ []) {n : Nat}
    (hn : ls.length ≤ n) (s t : List Char) :
    readLabelList n (labelsText ls ++ '}' :: s) = some (ls, t) ↔
      (∀ l ∈ ls, LegibleLabel l) ∧ t = s := by
  -- label by label; behind the last one stands the brace, behind the others a comma
  induction ls generalizing n with
  | nil => exact absurd rfl hne
  | cons l ls ih =>
    cases n with
    | zero => exact absurd hn (Nat.not_succ_le_zero _)
    | succ n =>
      rw [readLabelList_eq_some, List.forall_mem_cons]
      cases ls with
      | nil =>
        rw [show labelsText [l] = labelText l from List.intercalate_singleton]
        constructor
        · intro h
          obtain ⟨rest, hl, hrest⟩ := h
          obtain ⟨hlegible, rfl⟩ := (readLabel_append_iff _ _ _).1 hl
          rcases hrest with ⟨hrest, -⟩ | ⟨more, hmore, -⟩
          · exact ⟨⟨hlegible, List.forall_mem_nil _⟩, (List.cons.inj hrest).2.symm⟩
          · cases hmore
        · intro h
          obtain ⟨⟨hl, -⟩, rfl⟩ := h
          exact ⟨_, (readLabel_append_iff _ _ _).2 ⟨hl, rfl⟩, .inl ⟨rfl, rfl⟩⟩
      | cons l' ls =>
        rw [labelsText_cons_cons, List.append_assoc, List.cons_append]
        have ih := ih (List.cons_ne_nil _ _) (Nat.le_of_succ_le_succ hn)
        constructor
        · intro h
          obtain ⟨rest, hl, hrest⟩ := h
          obtain ⟨hlegible, rfl⟩ := (readLabel_append_iff _ _ _).1 hl
          rcases hrest with ⟨hrest, -⟩ | ⟨more, hmore, hls⟩
          · cases hrest
          · obtain rfl := (List.cons.inj hmore).2
            obtain ⟨hlegibles, hs⟩ := ih.1 hls
            exact ⟨⟨hlegible, hlegibles⟩, hs⟩
        · intro h
          obtain ⟨⟨hl, hls⟩, rfl⟩ := h
          exact ⟨_, (readLabel_append_iff _ _ _).2 ⟨hl, rfl⟩, .inr ⟨_, rfl, ih.2 ⟨hls, rfl⟩⟩⟩

end FabricGauges.OpenMetrics
