import FabricGauges.Proofs.Text.Pieces
import FabricGauges.Proofs.Url.Visible
import FabricGauges.Url.Basic

/-!
# Paths that go on

A path that is written behind another one goes on where that one ends: its segments follow those of
the folder that the first part names. Segments that are no dot segments are kept as they are,
escaped. The folder that a URL is in is the one that its text names without the slashes at its end,
unless that one ends in an empty segment itself.
-/

namespace FabricGauges.Url

open Text

/-! ## Dot segments -/

/-- Whether a segment stands for the folder that it is in, or for the one above. -/
def isDots (segment : List Char) : Bool :=
  decide (plainDots segment = ['.'] ∨ plainDots segment = ['.', '.'])

/-- A dot segment holds no blank. -/
theorem not_blank_of_isDots {segment : List Char} {c : Char} (h : isDots segment = true)
    (hc : c ∈ segment) : isFaint c = false := by
  have hall : (segment.map Char.toLower).all (0x20 < ·.toNat) = true := by
    unfold isDots plainDots at h
    split at h
    case h_5 =>
      rcases of_decide_eq_true h with hfolded | hfolded <;> rw [hfolded] <;> decide
    all_goals
      rename_i hfolded
      rw [hfolded]
      decide
  have hlower : 0x20 < c.toLower.toNat := by
    simpa using List.all_eq_true.1 hall _ (List.mem_map_of_mem hc)
  by_contra hfaint
  have hle : c.toLower.toNat ≤ 0x20 :=
    forall_faint (P := fun c => c.toLower.toNat ≤ 0x20) (by decide) (eq_true_of_ne_false hfaint)
  exact absurd hlower (Nat.not_lt_of_le hle)

theorem isDots_eq_false {segment : List Char} : isDots segment = false ↔
    ¬ (plainDots segment = ['.'] ∨ plainDots segment = ['.', '.']) := by
  simp [isDots]

theorem ne_nil_of_isDots {segment : List Char} (h : isDots segment = true) : segment ≠ [] := by
  rintro rfl
  exact absurd h (by decide)

/-- The characters that are escaped in a path are no parts of an escape. -/
theorem escapable_path : Percent.Escapable isPathEscaped := by
  intro c hc
  by_cases hascii : c.toNat < 0x80
  · -- One look at each of the characters of ASCII.
    have hall : ∀ n < 0x80, isPathEscaped (Char.ofNat n) = true →
        Char.ofNat n ≠ '%' ∧ hexValue? (Char.ofNat n) = none := by decide
    have hthis := hall c.toNat hascii
    rw [Char.ofNat_toNat] at hthis
    exact hthis hc
  · have hbeyond {d : Char} (hd : d.toNat < 0x80) : ¬ c ≤ d := fun hle =>
      hascii (Nat.lt_of_le_of_lt (UInt32.le_iff_toNat_le.1 hle) hd)
    refine ⟨fun hpercent => hascii (by rw [hpercent]; decide), ?_⟩
    simp [hexValue?, hbeyond (d := '9') (by decide), hbeyond (d := 'f') (by decide),
      hbeyond (d := 'F') (by decide)]

/-! ## Resolving in parts -/

/-- The folder that the segments of a path name, after the segments already kept. -/
def settle (kept : List (List Char)) : List (List Char) → List (List Char)
  | [] => kept
  | segment :: rest =>
    if plainDots segment = ['.', '.'] then settle kept.dropLast rest
    else if plainDots segment = ['.'] then settle kept rest
    else settle (kept ++ [Percent.encode isPathEscaped segment]) rest

/-- A path in two parts is resolved one part after the other. -/
theorem resolve_append {more : List (List Char)} (hmore : more ≠ []) (kept first : List (List Char)) :
    resolve kept (first ++ more) = resolve (settle kept first) more := by
  induction first generalizing kept with
  | nil => rfl
  | cons segment rest ih =>
    have hrest : (rest ++ more).isEmpty = false := by simp [hmore]
    simp only [List.cons_append, resolve, settle, hrest, Bool.false_eq_true, ↓reduceIte,
      List.append_nil]
    split_ifs <;> exact ih _

theorem settle_append (kept first more : List (List Char)) :
    settle kept (first ++ more) = settle (settle kept first) more := by
  induction first generalizing kept with
  | nil => rfl
  | cons segment rest ih =>
    simp only [List.cons_append, settle]
    split_ifs <;> exact ih _

/-- A segment that is no dot segment is kept, and what follows is resolved behind it. -/
theorem resolve_cons_of_plain {segment : List Char} (h : isDots segment = false)
    (kept rest : List (List Char)) :
    resolve kept (segment :: rest) =
      resolve (kept ++ [Percent.encode isPathEscaped segment]) rest := by
  have hplain := isDots_eq_false.1 h
  rw [resolve, if_neg (hplain ∘ .inr), if_neg (hplain ∘ .inl)]

/-- Segments that are no dot segments are all kept. -/
theorem resolve_plain {segments : List (List Char)} (h : ∀ s ∈ segments, isDots s = false)
    (kept : List (List Char)) :
    resolve kept segments = kept ++ segments.map (Percent.encode isPathEscaped) := by
  induction segments generalizing kept with
  | nil => simp [resolve]
  | cons segment rest ih =>
    rw [resolve_cons_of_plain (h segment List.mem_cons_self),
      ih fun s hs => h s (List.mem_cons_of_mem _ hs)]
    simp

/-- A dot segment at the end of a path only leaves an empty segment behind. -/
theorem resolve_singleton (kept : List (List Char)) (last : List Char) :
    resolve kept [last] = settle kept [last] ∨ resolve kept [last] = settle kept [last] ++ [[]] := by
  simp only [resolve, settle, List.isEmpty_nil, ↓reduceIte]
  split_ifs
  · exact .inr rfl
  · exact .inr rfl
  · exact .inl rfl

/-- A segment that is no dot segment is kept. -/
theorem settle_singleton_plain {last : List Char} (h : isDots last = false)
    (kept : List (List Char)) :
    settle kept [last] = kept ++ [Percent.encode isPathEscaped last] := by
  have hplain := isDots_eq_false.1 h
  rw [settle, if_neg (hplain ∘ .inr), if_neg (hplain ∘ .inl), settle]

/-- A dot segment adds nothing to what has been kept. -/
theorem length_settle_singleton_of_isDots (kept : List (List Char)) {last : List Char}
    (h : isDots last = true) : (settle kept [last]).length ≤ kept.length := by
  have hdots : plainDots last = ['.'] ∨ plainDots last = ['.', '.'] := of_decide_eq_true h
  simp only [settle]
  split_ifs with hup hstay
  · simp
  · exact le_rfl
  · exact absurd hdots (by simp [hup, hstay])

/-! ## The folder of a path -/

/-- A path without the empty segments at its end. -/
def trimmed (path : List (List Char)) : List (List Char) := path.rdropWhile List.isEmpty

/-- The folder of a URL: its path without the slashes at its end. -/
def folder (u : Url) : List (List Char) := trimmed u.path

/-- The folder that a written path names, where more is written behind it. -/
def readFolder (s : List Char) : List (List Char) :=
  if s.isEmpty then [] else settle [] (pieces isSlash (s.drop 1))

/-- Whether a text is a path as it is written behind an authority. -/
def IsPath (s : List Char) : Prop := ∀ c ∈ s.head?, isSlash c = true

/-- A path that does not end in an empty segment is trimmed already. -/
theorem trimmed_eq_self_iff {path : List (List Char)} :
    trimmed path = path ↔ ∀ s ∈ path.getLast?, s ≠ [] := by
  rw [trimmed, List.rdropWhile_eq_self_iff]
  constructor
  · intro h s hs hempty
    obtain ⟨hne, hlast⟩ := List.mem_getLast?_eq_getLast hs
    exact h hne (by rw [← hlast, hempty]; rfl)
  · intro h hne hempty
    exact h _ (List.getLast?_eq_some_getLast hne) (List.isEmpty_iff.1 hempty)

/-- Behind its folder, a path has empty segments alone. -/
theorem eq_nil_of_path_eq {u : Url} {more : List (List Char)} (h : u.path = u.folder ++ more) :
    ∀ s ∈ more, s = [] := by
  have hsplit : u.path = u.folder ++ u.path.rtakeWhile List.isEmpty :=
    List.rdropWhile_append_rtakeWhile.symm
  rw [hsplit, List.append_cancel_left_eq] at h
  intro s hs
  rw [← h] at hs
  exact List.isEmpty_iff.1 (List.mem_rtakeWhile_imp hs)

theorem readFolder_cons (c : Char) (s : List Char) :
    readFolder (c :: s) = settle [] (pieces isSlash s) := rfl

theorem trimmed_append_empty (path : List (List Char)) (n : Nat) :
    trimmed (path ++ List.replicate n []) = trimmed path := by
  induction n with
  | zero => simp
  | succ n ih =>
    rw [List.replicate_succ', ← List.append_assoc, trimmed, List.rdropWhile_concat_pos _ _ _ rfl]
    exact ih

/-- What is written behind a path goes on in its folder. -/
theorem readPath_append {tail : List Char} (htail : IsPath tail) (s : List Char) :
    readPath (tail ++ '/' :: s) = resolve (readFolder tail) (pieces isSlash s) := by
  match tail with
  | [] => rfl
  | c :: tail =>
    have hcut : pieces isSlash (tail ++ '/' :: s) = pieces isSlash tail ++ pieces isSlash s :=
      pieces_append_cut rfl tail s
    simp only [readPath, readFolder, List.cons_append, List.drop_one, List.tail_cons,
      List.isEmpty_cons, Bool.false_eq_true, ↓reduceIte]
    rw [hcut, resolve_append (pieces_ne_nil _ _)]

/-- Slashes at the end of a path are empty segments. -/
theorem pieces_slashes (n : Nat) :
    pieces isSlash (List.replicate n '/') = List.replicate (n + 1) [] := by
  induction n with
  | zero => rfl
  | succ n ih =>
    have hcut : isSlash '/' = true := rfl
    rw [List.replicate_succ, pieces, if_pos hcut, ih]
    rfl

/-- Slashes at the end of a path do not change its folder. -/
theorem trimmed_readPath {tail : List Char} (htail : IsPath tail) (n : Nat) :
    trimmed (readPath (tail ++ List.replicate n '/')) = trimmed (readFolder tail) := by
  cases n with
  | zero =>
    rw [List.replicate_zero, List.append_nil]
    match tail with
    | [] => rfl
    | c :: tail =>
      -- the last segment is dropped from the folder, or an empty one stands for it
      obtain ⟨init, last, hpieces⟩ := List.eq_nil_or_concat' (pieces isSlash tail)
        |>.resolve_left (pieces_ne_nil _ _)
      simp only [readPath, readFolder, List.drop_one, List.tail_cons, List.isEmpty_cons,
        Bool.false_eq_true, ↓reduceIte, hpieces]
      rw [resolve_append (by simp), settle_append]
      rcases resolve_singleton (settle [] init) last with h | h
      · rw [h]
      · rw [h]
        exact trimmed_append_empty _ 1
  | succ n =>
    have hplain : ∀ s ∈ List.replicate (n + 1) ([] : List Char), isDots s = false := by
      intro s hs
      rw [(List.mem_replicate.1 hs).2]
      decide
    rw [List.replicate_succ, readPath_append htail, pieces_slashes, resolve_plain hplain]
    simpa using trimmed_append_empty (readFolder tail) (n + 1)

/-- Blanks behind a path belong to its last segment, so that they change its folder. -/
theorem readFolder_append_blanks {tail blanks : List Char} (htail : tail ≠ []) (hblanks : blanks ≠ [])
    (h : ∀ c ∈ blanks, isFaint c = true) :
    readFolder (tail ++ blanks) ≠ trimmed (readFolder tail) := by
  obtain ⟨c, tail, rfl⟩ := List.exists_cons_of_ne_nil htail
  have huncut : ∀ c ∈ blanks, isSlash c = false := by
    intro c hc
    by_contra hslash
    have hfaint : isFaint c = false :=
      isFaint_of_endsAuthority (by simp [endsAuthority, eq_true_of_ne_false hslash])
    simp [h c hc] at hfaint
  obtain ⟨init, last, hpieces, hmore⟩ := pieces_append_uncut huncut tail
  have hplain : isDots (last ++ blanks) = false := by
    obtain ⟨b, hb⟩ := List.exists_mem_of_ne_nil blanks hblanks
    by_contra hdots
    have hseen := not_blank_of_isDots (by simpa using hdots) (List.mem_append_right last hb)
    simp [h b hb] at hseen
  rw [List.cons_append, readFolder_cons, readFolder_cons, hmore, hpieces, settle_append,
    settle_append, settle_singleton_plain hplain]
  intro heq
  have hlead : settle [] init ++ [Percent.encode isPathEscaped (last ++ blanks)] <+:
      settle (settle [] init) [last] := heq ▸ List.rdropWhile_prefix _ _
  have hlength := hlead.length_le
  cases hlast : isDots last with
  | true =>
    -- A dot segment adds nothing to the folder before it, so there is no segment to compare.
    have hle := length_settle_singleton_of_isDots (settle [] init) hlast
    rw [List.length_append, List.length_singleton] at hlength
    omega
  | false =>
    rw [settle_singleton_plain hlast] at hlead
    have hequal := List.append_cancel_left (hlead.eq_of_length (by simp))
    rw [Percent.encode_append, List.singleton_inj, List.append_right_eq_self] at hequal
    exact hblanks (Percent.encode_eq_nil hequal)

end FabricGauges.Url
