import FabricGauges.Proofs.Exposition.Number
import FabricGauges.Proofs.Exposition.Verbatim

/-!
# Lines written as they are

A line whose name and texts are written without escaping is read as the entry that it was written
for if, and only if, they are legible as they stand. So an exposition of such lines is read as the
entries that it was written for if all of them are legible, and is misread or refused otherwise.
-/

namespace FabricGauges.OpenMetrics

/-! ## Entries -/

/-- Whether a name can be the name of a metric. -/
def isMetricName (name : List Char) : Bool := isName isNameStart isNamePart name

/-- The labels of a sample in braces, if there are any. -/
def bracesText : List (String × String) → List Char
  | [] => []
  | ls => '{' :: (labelsText ls ++ ['}'])

namespace Entry

/-- The line of an entry, written as it is. -/
def line : Entry → List Char
  | help name text => helpMark ++ (name.toList ++ ' ' :: text.toList)
  | type name kind => typeMark ++ (name.toList ++ ' ' :: kind.toList)
  | sample name labels value =>
    name.toList ++ (bracesText labels ++ ' ' :: (Layout.sample.render value).toList)

/-- An entry can be written as it is. -/
def Legible : Entry → Prop
  | help name text => isMetricName name.toList ∧ isPlain text.toList
  | type name kind => isMetricName name.toList ∧ kind.toList ∈ kinds
  | sample name labels _ => isMetricName name.toList ∧ ∀ l ∈ labels, LegibleLabel l

end Entry

/-! ## Labels in braces -/

theorem length_le_labelsText (ls : List (String × String)) :
    ls.length ≤ (labelsText ls).length := by
  have hlabel : ∀ l : String × String, 1 ≤ (labelText l).length := by
    intro l
    have h := labelText_append l []
    rw [List.append_nil] at h
    rw [h, List.length_append, List.length_cons]
    omega
  induction ls with
  | nil => exact Nat.zero_le _
  | cons l ls ih =>
    cases ls with
    | nil =>
      rw [show labelsText [l] = labelText l from List.intercalate_singleton]
      exact hlabel l
    | cons l' ls =>
      have hl := hlabel l
      rw [labelsText_cons_cons, List.length_append]
      simp only [List.length_cons] at ih ⊢
      omega

/-- Labels that are not empty are those of the list after the opening brace. -/
theorem readLabels_brace_iff {s t : List Char} {l : String × String} {ls : List (String × String)} :
    readLabels ('{' :: s) = some (l :: ls, t) ↔ readLabelList s.length s = some (l :: ls, t) := by
  cases s with
  | nil => rfl
  | cons c s =>
    by_cases hc : c = '}'
    · subst hc
      -- empty braces are read as no labels, and a list of labels cannot begin with a brace
      constructor
      · intro h
        cases h
      · intro h
        obtain ⟨rest, hl, -⟩ := readLabelList_eq_some.1 h
        cases hl
    · have hread : readLabels ('{' :: c :: s) = readLabelList (c :: s).length (c :: s) := by
        unfold readLabels
        split
        · next h => exact absurd (List.cons.inj (List.cons.inj h).2).1 hc
        · next h =>
          rw [(List.cons.inj h).2]
        · next h => exact absurd rfl (h (c :: s))
      rw [hread]

/-- Labels are read back from their text if every one of them is legible. -/
theorem readLabels_braces_iff (ls : List (String × String)) (s t : List Char) :
    readLabels (bracesText ls ++ ' ' :: s) = some (ls, t) ↔
      (∀ l ∈ ls, LegibleLabel l) ∧ t = ' ' :: s := by
  cases ls with
  | nil =>
    show some ([], ' ' :: s) = some ([], t) ↔ _
    simp [eq_comm]
  | cons l ls =>
    have htext : bracesText (l :: ls) ++ ' ' :: s =
        '{' :: (labelsText (l :: ls) ++ '}' :: ' ' :: s) := by
      simp [bracesText]
    have hlength : (l :: ls).length ≤ (labelsText (l :: ls) ++ '}' :: ' ' :: s).length := by
      have hle := length_le_labelsText (l :: ls)
      rw [List.length_append]
      omega
    rw [htext, ← readLabelList_append_iff (List.cons_ne_nil l ls) hlength, readLabels_brace_iff]

/-! ## Lines -/

theorem not_isNamePart_space (s : List Char) : ∀ c, (' ' :: s).head? = some c → ¬isNamePart c := by
  intro c hc
  obtain rfl := Option.some.inj hc
  decide

theorem not_isNamePart_braces (ls : List (String × String)) (s : List Char) :
    ∀ c, (bracesText ls ++ ' ' :: s).head? = some c → ¬isNamePart c := by
  cases ls with
  | nil => exact not_isNamePart_space s
  | cons l ls =>
    intro c hc
    obtain rfl := Option.some.inj hc
    decide

theorem eq_toList_of_ofList {s : List Char} {text : String} (h : String.ofList s = text) :
    s = text.toList := by
  rw [← h, String.toList_ofList]

/-- A help line is read back if it is legible. -/
theorem readHelp_iff (name text : String) (s t : List Char) :
    readHelp (name.toList ++ ' ' :: (text.toList ++ '\n' :: s)) = some (.help name text, t) ↔
      (Entry.help name text).Legible ∧ t = s := by
  have hend := not_isNamePart_space (text.toList ++ '\n' :: s)
  constructor
  · intro h
    -- the name, a space, the text and the end of the line, each as it was written
    obtain ⟨⟨name', rest⟩, hname, h⟩ := Option.bind_eq_some_iff.1 h
    dsimp only at h
    split at h
    · next rest =>
      split at h
      · next text' rest' htext =>
        obtain ⟨hentry, rfl⟩ := Prod.mk.inj (Option.some.inj h)
        obtain ⟨hname', htext'⟩ := Entry.help.inj hentry
        obtain rfl := eq_toList_of_ofList hname'
        obtain rfl := eq_toList_of_ofList htext'
        obtain ⟨hlegible, hrest⟩ := (readName_append_iff hend).1 hname
        obtain rfl := (List.cons.inj hrest).2
        obtain ⟨hplain, rfl⟩ := (readEscaped_append_iff (.inr rfl)).1 htext
        exact ⟨⟨hlegible, hplain⟩, rfl⟩
      · cases h
    · cases h
  · intro h
    obtain ⟨⟨hname, htext⟩, rfl⟩ := h
    have hread := (readEscaped_append_iff (s := t) (.inr rfl)).2 ⟨htext, rfl⟩
    unfold readHelp
    rw [(readName_append_iff hend).2 ⟨hname, rfl⟩, Option.bind_eq_bind, Option.bind_some]
    simp only [hread]
    show some (Entry.help (String.ofList name.toList) (String.ofList text.toList), t) = _
    rw [String.ofList_toList, String.ofList_toList]

/-- The types are words. -/
theorem isAlpha_of_mem_kinds {kind : List Char} (h : kind ∈ kinds) : ∀ c ∈ kind, c.isAlpha := by
  have hall : kinds.all (·.all Char.isAlpha) = true := by decide +kernel
  exact List.all_eq_true.1 (List.all_eq_true.1 hall kind h)

/-- A type line is read back if it is legible. -/
theorem readType_iff (name kind : String) (s t : List Char) :
    readType (name.toList ++ ' ' :: (kind.toList ++ '\n' :: s)) = some (.type name kind, t) ↔
      (Entry.type name kind).Legible ∧ t = s := by
  have hend := not_isNamePart_space (kind.toList ++ '\n' :: s)
  -- a kind is a word of letters, which the line end follows
  have hsplit : kind.toList ∈ kinds →
      (kind.toList ++ '\n' :: s).takeWhile Char.isAlpha = kind.toList ∧
        (kind.toList ++ '\n' :: s).dropWhile Char.isAlpha = '\n' :: s := by
    intro hkind
    have hwords := isAlpha_of_mem_kinds hkind
    rw [List.takeWhile_append_of_pos hwords, List.dropWhile_append_of_pos hwords]
    exact ⟨List.append_nil _, rfl⟩
  constructor
  · intro h
    obtain ⟨⟨name', rest⟩, hname, h⟩ := Option.bind_eq_some_iff.1 h
    dsimp only at h
    split at h
    · next rest =>
      split at h
      · next rest' hrest' =>
        obtain ⟨hkind, h⟩ := Option.ite_none_right_eq_some.1 h
        obtain ⟨hentry, rfl⟩ := Prod.mk.inj (Option.some.inj h)
        obtain ⟨hname', hkind'⟩ := Entry.type.inj hentry
        obtain rfl := eq_toList_of_ofList hname'
        rw [eq_toList_of_ofList hkind'] at hkind
        obtain ⟨hlegible, hrest⟩ := (readName_append_iff hend).1 hname
        obtain rfl := (List.cons.inj hrest).2
        rw [(hsplit hkind).2] at hrest'
        exact ⟨⟨hlegible, hkind⟩, (List.cons.inj hrest').2.symm⟩
      · cases h
    · cases h
  · intro h
    obtain ⟨⟨hname, hkind⟩, rfl⟩ := h
    obtain ⟨htake, hdrop⟩ := hsplit hkind
    unfold readType
    rw [(readName_append_iff hend).2 ⟨hname, rfl⟩, Option.bind_eq_bind, Option.bind_some]
    simp only [hdrop, htake]
    show (if kind.toList ∈ kinds then
      some (Entry.type (String.ofList name.toList) (String.ofList kind.toList), t) else none) = _
    rw [if_pos hkind, String.ofList_toList, String.ofList_toList]

/-- A sample is read back if it is legible. -/
theorem readSample_iff (name : String) (labels : List (String × String)) (value : Double)
    (s t : List Char) :
    readSample (name.toList ++ (bracesText labels ++
      ' ' :: ((Layout.sample.render value).toList ++ '\n' :: s))) =
        some (.sample name labels value, t) ↔
      (Entry.sample name labels value).Legible ∧ t = s := by
  have hnumber := readNumber_render Layout.sample value s
  -- what the number looks like does not matter
  generalize (Layout.sample.render value).toList ++ '\n' :: s = number at hnumber
  have hend := not_isNamePart_braces labels number
  constructor
  · intro h
    obtain ⟨⟨name', rest⟩, hname, h⟩ := Option.bind_eq_some_iff.1 h
    obtain ⟨⟨labels', rest'⟩, hlabels, h⟩ := Option.bind_eq_some_iff.1 h
    dsimp only at hlabels h
    split at h
    · next rest' =>
      obtain ⟨⟨value', rest''⟩, hvalue, h⟩ := Option.bind_eq_some_iff.1 h
      dsimp only at h
      split at h
      · next rest'' =>
        obtain ⟨hentry, rfl⟩ := Prod.mk.inj (Option.some.inj h)
        obtain ⟨hname', rfl, rfl⟩ := Entry.sample.inj hentry
        obtain rfl := eq_toList_of_ofList hname'
        obtain ⟨hlegible, rfl⟩ := (readName_append_iff hend).1 hname
        obtain ⟨hlegibles, hrest⟩ := (readLabels_braces_iff _ _ _).1 hlabels
        obtain rfl := (List.cons.inj hrest).2
        rw [hnumber] at hvalue
        cases hvalue
        exact ⟨⟨hlegible, hlegibles⟩, rfl⟩
      · cases h
    · cases h
  · intro h
    obtain ⟨⟨hname, hlabels⟩, rfl⟩ := h
    unfold readSample
    rw [(readName_append_iff hend).2 ⟨hname, rfl⟩, Option.bind_eq_bind, Option.bind_some]
    dsimp only
    rw [(readLabels_braces_iff _ _ _).2 ⟨hlabels, rfl⟩, Option.bind_eq_bind, Option.bind_some]
    simp only [hnumber]
    show some (Entry.sample (String.ofList name.toList) labels value, t) = _
    rw [String.ofList_toList]

/-- A line of description is one. -/
theorem readEntry_help (s : List Char) : readEntry (helpMark ++ s) = readHelp s := by
  unfold readEntry
  rw [List.dropPrefix?_append_of_beq s (by simp)]

/-- A line of type is one. -/
theorem readEntry_type (s : List Char) : readEntry (typeMark ++ s) = readType s := by
  have hhelp : (typeMark ++ s).dropPrefix? helpMark = none := rfl
  unfold readEntry
  rw [hhelp]
  dsimp only
  rw [List.dropPrefix?_append_of_beq s (by simp)]

theorem readHelp_ne_sample {s t : List Char} {name : String} {labels : List (String × String)}
    {value : Double} : readHelp s ≠ some (.sample name labels value, t) := by
  intro h
  obtain ⟨⟨name', rest⟩, -, h⟩ := Option.bind_eq_some_iff.1 h
  dsimp only at h
  split at h
  · split at h
    · cases (Prod.mk.inj (Option.some.inj h)).1
    · cases h
  · cases h

theorem readType_ne_sample {s t : List Char} {name : String} {labels : List (String × String)}
    {value : Double} : readType s ≠ some (.sample name labels value, t) := by
  intro h
  obtain ⟨⟨name', rest⟩, -, h⟩ := Option.bind_eq_some_iff.1 h
  dsimp only at h
  split at h
  · split at h
    · obtain ⟨-, h⟩ := Option.ite_none_right_eq_some.1 h
      cases (Prod.mk.inj (Option.some.inj h)).1
    · cases h
  · cases h

theorem dropPrefix?_eq_none {c : Char} (hc : isNameStart c) (s mark : List Char) :
    (c :: s).dropPrefix? ('#' :: mark) = none := by
  have hne : ¬(c == '#') = true := by
    intro h
    rw [beq_iff_eq.1 h] at hc
    exact absurd hc (by decide)
  exact if_neg hne

/-- A line that starts with a name is a sample, and no other line is. -/
theorem readEntry_eq_sample_iff {s t : List Char} {name : String} {labels : List (String × String)}
    {value : Double} :
    readEntry s = some (.sample name labels value, t) ↔
      readSample s = some (.sample name labels value, t) := by
  constructor
  · intro h
    unfold readEntry at h
    split at h
    · exact absurd h readHelp_ne_sample
    · split at h
      · exact absurd h readType_ne_sample
      · exact h
  · intro h
    obtain ⟨⟨name', rest⟩, hname, -⟩ := Option.bind_eq_some_iff.1 h
    cases s with
    | nil => cases hname
    | cons c s =>
      -- the reader of names has seen the first character, and it is no number sign
      have hc : isNameStart c := (Option.ite_none_right_eq_some.1 hname).1
      have hhelp : (c :: s).dropPrefix? helpMark = none := dropPrefix?_eq_none hc s _
      have htype : (c :: s).dropPrefix? typeMark = none := dropPrefix?_eq_none hc s _
      unfold readEntry
      rw [hhelp]
      dsimp only
      rw [htype]
      exact h

/-- A line that is written as it is is read as its entry if that is legible. -/
theorem readEntry_line_iff (e : Entry) (s t : List Char) :
    readEntry (e.line ++ '\n' :: s) = some (e, t) ↔ e.Legible ∧ t = s := by
  cases e with
  | help name text =>
    have hline : (Entry.help name text).line ++ '\n' :: s =
        helpMark ++ (name.toList ++ ' ' :: (text.toList ++ '\n' :: s)) := by
      simp only [Entry.line, List.append_assoc, List.cons_append]
    rw [hline, readEntry_help, readHelp_iff]
  | type name kind =>
    have hline : (Entry.type name kind).line ++ '\n' :: s =
        typeMark ++ (name.toList ++ ' ' :: (kind.toList ++ '\n' :: s)) := by
      simp only [Entry.line, List.append_assoc, List.cons_append]
    rw [hline, readEntry_type, readType_iff]
  | sample name labels value =>
    have hline : (Entry.sample name labels value).line ++ '\n' :: s =
        name.toList ++ (bracesText labels ++
          ' ' :: ((Layout.sample.render value).toList ++ '\n' :: s)) := by
      simp only [Entry.line, List.append_assoc, List.cons_append]
    rw [hline, readEntry_eq_sample_iff, readSample_iff]

/-! ## Whole texts -/

/-- The lines of some entries and the last line. -/
def text (entries : List Entry) : List Char :=
  entries.flatMap (fun e => e.line ++ ['\n']) ++ lastLine

/-- The text of entries is that of the first one, a line break and that of the others. -/
theorem text_cons (e : Entry) (entries : List Entry) :
    text (e :: entries) = e.line ++ '\n' :: text entries := by
  unfold text
  simp only [List.flatMap_cons, List.append_assoc, List.cons_append, List.nil_append]

/-- A text has more characters than entries, so that reading it never runs out of fuel. -/
theorem length_lt_text (entries : List Entry) : entries.length < (text entries).length := by
  induction entries with
  | nil => decide
  | cons e entries ih =>
    rw [text_cons, List.length_append]
    simp only [List.length_cons]
    omega

/-- The last line is no entry. -/
theorem readEntry_lastLine : readEntry lastLine = none := rfl

/-- Entries are read back from their text if all of them are legible. -/
theorem readEntries_text_iff (entries : List Entry) {n : Nat} (hn : entries.length < n) :
    readEntries n (text entries) = some entries ↔ ∀ e ∈ entries, e.Legible := by
  induction entries generalizing n with
  | nil =>
    cases n with
    | zero => exact absurd hn (Nat.lt_irrefl 0)
    | succ n =>
      have hread : readEntries (n + 1) (text []) = some [] := if_pos rfl
      exact ⟨fun _ => List.forall_mem_nil _, fun _ => hread⟩
  | cons e entries ih =>
    cases n with
    | zero => exact absurd hn (Nat.not_lt_zero _)
    | succ n =>
      have ih := ih (Nat.lt_of_succ_lt_succ hn)
      have hline := readEntry_line_iff e (text entries)
      rw [text_cons, List.forall_mem_cons, readEntries]
      constructor
      · intro h
        split at h
        · cases h
        · obtain ⟨⟨e', rest⟩, he, h⟩ := Option.bind_eq_some_iff.1 h
          obtain ⟨entries', hentries, h⟩ := Option.map_eq_some_iff.1 h
          obtain ⟨rfl, rfl⟩ := List.cons.inj h
          -- the entry has been read from its own line, so the rest begins where that ends
          obtain ⟨hlegible, rfl⟩ := (hline _).1 he
          exact ⟨hlegible, ih.1 hentries⟩
      · intro h
        obtain ⟨hlegible, hentries⟩ := h
        have he := (hline _).2 ⟨hlegible, rfl⟩
        -- the last line is no entry
        have hne : ¬e.line ++ '\n' :: text entries = lastLine := by
          intro h
          rw [h, readEntry_lastLine] at he
          cases he
        rw [if_neg hne, he]
        show (readEntries n (text entries)).map (e :: ·) = some (e :: entries)
        rw [ih.2 hentries]
        rfl

/-- An exposition of lines that are written as they are is read as its entries if, and only if, all
of them are legible. -/
theorem read_iff_legible {s : String} {entries : List Entry} (hs : s.toList = text entries) :
    read s = some entries ↔ ∀ e ∈ entries, e.Legible := by
  unfold read
  rw [hs]
  exact readEntries_text_iff entries (length_lt_text entries)

end FabricGauges.OpenMetrics
