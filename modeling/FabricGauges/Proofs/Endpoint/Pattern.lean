import FabricGauges.Endpoint.Route
import FabricGauges.Proofs.Checks
import Mathlib.Data.List.TakeWhile

/-!
# Patterns of paths

A path can be routed if every mark in it begins a parameter. `Route.MarkFits` says what this takes:
a name after the mark, up to the next slash and without another mark; and for the rest of a path,
nothing before the mark in its segment and nothing after the name. The condition is about the text
alone, while `Route.parts` reads it from its start.

A path is always one that its own pattern stands for. Without marks it is the only one.
-/

namespace FabricGauges

namespace Route

/-! ## Marks -/

/-- A mark between two texts begins a parameter. -/
structure MarkFits (before : List Char) (mark : Char) (after : List Char) : Prop where
  named : after.takeWhile (· ≠ '/') ≠ []
  single : ∀ c ∈ after.takeWhile (· ≠ '/'), isMark c = false
  remainder : mark = '*' → before.getLast? = some '/' ∧ after.takeWhile (· ≠ '/') = after

/-- Every mark of a text begins a parameter, if the text stands after another one. -/
def MarksFit (before s : List Char) : Prop :=
  ∀ first mark after, s = first ++ mark :: after → isMark mark →
    MarkFits (before ++ first) mark after

theorem marksFit_nil (before : List Char) : MarksFit before [] := by
  intro first mark after h
  simp at h

/-- Marks fit if the first one does and the others do after it. -/
theorem marksFit_cons {before s : List Char} {c : Char} :
    MarksFit before (c :: s) ↔ (isMark c → MarkFits before c s) ∧ MarksFit (before ++ [c]) s := by
  constructor
  · intro h
    refine ⟨fun hc => ?_, ?_⟩
    · have hfits := h [] c s rfl hc
      rwa [List.append_nil] at hfits
    · intro first mark after hs hmark
      have hfits := h (c :: first) mark after (by rw [hs, List.cons_append]) hmark
      rwa [List.append_cons] at hfits
  · intro h first mark after hs hmark
    obtain ⟨hc, hrest⟩ := h
    -- the mark is the first character, or one of the others
    rcases first with _ | ⟨c', first⟩
    · obtain ⟨rfl, rfl⟩ := List.cons.inj hs
      rw [List.append_nil]
      exact hc hmark
    · rw [List.cons_append] at hs
      obtain ⟨rfl, rfl⟩ := List.cons.inj hs
      rw [List.append_cons]
      exact hrest first mark after rfl hmark

/-- A text without marks may stand anywhere. -/
theorem marksFit_append {before name s : List Char} (hname : ∀ c ∈ name, isMark c = false) :
    MarksFit before (name ++ s) ↔ MarksFit (before ++ name) s := by
  induction name generalizing before with
  | nil => rw [List.nil_append, List.append_nil]
  | cons c name ih =>
    obtain ⟨hc, hname⟩ := List.forall_mem_cons.1 hname
    rw [List.cons_append, marksFit_cons, ih hname, List.append_assoc, hc]
    exact and_iff_right fun h => absurd h (by decide)

/-! ## Names -/

/-- A name reaches to the next slash, is not empty and has no mark. -/
theorem name_eq_ok {s n : List Char} :
    name s = .ok n ↔ n = s.takeWhile (· ≠ '/') ∧ n ≠ [] ∧ ∀ c ∈ n, isMark c = false := by
  unfold name
  dsimp only
  split
  -- a mark inside a name is refused, and so is a name without a character
  · next hcrowded =>
    refine ⟨by rintro ⟨⟩, ?_⟩
    rintro ⟨rfl, -, hsingle⟩
    obtain ⟨c, hc, hmark⟩ := List.any_eq_true.1 hcrowded
    rw [hsingle c hc] at hmark
    cases hmark
  · next hcrowded =>
    split
    · next hunnamed =>
      refine ⟨by rintro ⟨⟩, ?_⟩
      rintro ⟨rfl, hnamed, -⟩
      exact absurd (List.isEmpty_iff.1 hunnamed) hnamed
    · next hnamed =>
      rw [Except.ok.injEq, eq_comm]
      refine ⟨?_, fun h => h.1⟩
      rintro rfl
      refine ⟨rfl, fun h => hnamed (List.isEmpty_iff.2 h), ?_⟩
      simpa using hcrowded

/-! ## Reading a pattern -/

/-- A colon begins a parameter, which takes a name. -/
theorem parts_colon_eq_ok {atSegment : Bool} {s : List Char} {ps : List RoutePart} :
    parts atSegment (':' :: s) = .ok ps ↔
      ∃ n later, name s = .ok n ∧ parts false (s.drop n.length) = .ok later ∧
        ps = .segment :: later := by
  rw [parts, if_pos rfl]
  simp only [bind_eq_ok, pure, Except.pure, Except.ok.injEq, exists_and_left, eq_comm (b := ps)]

/-- A star begins a rest, which ends the pattern and takes a whole segment. -/
theorem parts_star_eq_ok {atSegment : Bool} {s : List Char} {ps : List RoutePart} :
    parts atSegment ('*' :: s) = .ok ps ↔
      ∃ n, name s = .ok n ∧ s.length ≤ n.length ∧ atSegment ∧ ps = [.remainder] := by
  rw [parts, if_neg (by decide), if_pos rfl, bind_eq_ok]
  refine exists_congr fun n => and_congr_right fun _ => ?_
  by_cases h : n.length < s.length ∨ !atSegment
  · rw [if_pos h]
    refine ⟨by rintro ⟨⟩, ?_⟩
    rintro ⟨hlength, hsegment, -⟩
    rw [hsegment] at h
    rcases h with h | h
    · omega
    · cases h
  · rw [if_neg h]
    obtain ⟨hlength, hsegment⟩ := not_or.1 h
    have hsegment : atSegment = true := by simpa using hsegment
    constructor
    · intro hps
      cases hps
      exact ⟨by omega, hsegment, rfl⟩
    · rintro ⟨-, -, rfl⟩
      rfl

/-- A character that is no mark stands for itself. -/
theorem parts_char_eq_ok {atSegment : Bool} {c : Char} {s : List Char} {ps : List RoutePart}
    (hc : isMark c = false) :
    parts atSegment (c :: s) = .ok ps ↔
      ∃ later, parts (c = '/') s = .ok later ∧ ps = .char c :: later := by
  have hmarks : c ≠ ':' ∧ c ≠ '*' := by simpa [isMark] using hc
  rw [parts, if_neg hmarks.1, if_neg hmarks.2]
  simp only [bind_eq_ok, pure, Except.pure, Except.ok.injEq, eq_comm (b := ps)]

theorem markFits_colon {before s : List Char} :
    MarkFits before ':' s ↔ ∃ n, name s = .ok n := by
  simp only [name_eq_ok]
  constructor
  · intro h
    exact ⟨_, rfl, h.named, h.single⟩
  · rintro ⟨n, rfl, hnamed, hsingle⟩
    exact ⟨hnamed, hsingle, fun h => absurd h (by decide)⟩

theorem markFits_star {before s : List Char} :
    MarkFits before '*' s ↔
      ∃ n, name s = .ok n ∧ s.length ≤ n.length ∧ before.getLast? = some '/' := by
  simp only [name_eq_ok]
  constructor
  · intro h
    obtain ⟨hsegment, hend⟩ := h.remainder rfl
    exact ⟨_, ⟨rfl, h.named, h.single⟩, Nat.le_of_eq (congrArg List.length hend.symm), hsegment⟩
  · rintro ⟨n, ⟨rfl, hnamed, hsingle⟩, hlength, hsegment⟩
    exact ⟨hnamed, hsingle, fun _ => ⟨hsegment, (List.takeWhile_prefix _).eq_of_length_le hlength⟩⟩

/-- A text goes on after the name at its beginning. -/
theorem append_drop_name {s n : List Char} (h : name s = .ok n) : n ++ s.drop n.length = s := by
  obtain ⟨rfl, -, -⟩ := name_eq_ok.1 h
  exact List.prefix_iff_eq_append.1 (List.takeWhile_prefix _)

theorem slash_notMem_name {s n : List Char} (h : name s = .ok n) : '/' ∉ n := by
  obtain ⟨rfl, -, -⟩ := name_eq_ok.1 h
  intro hslash
  simpa using List.mem_takeWhile_imp hslash

theorem getLast?_append_name {s n : List Char} (h : name s = .ok n) (before : List Char) :
    (before ++ n).getLast? ≠ some '/' := by
  obtain ⟨-, hnamed, -⟩ := name_eq_ok.1 h
  rw [List.getLast?_append, List.getLast?_eq_some_getLast hnamed, Option.some_or]
  intro hlast
  exact slash_notMem_name h (Option.some.inj hlast ▸ List.getLast_mem hnamed)

/-- The marks behind a name fit as they would without the name being read. -/
theorem marksFit_name {before s n : List Char} (h : name s = .ok n) :
    MarksFit before s ↔ MarksFit (before ++ n) (s.drop n.length) := by
  obtain ⟨-, -, hsingle⟩ := name_eq_ok.1 h
  rw [← marksFit_append hsingle, append_drop_name h]

/-- A text can be read as a pattern if all its marks fit; what matters of the text before is whether
it ends with a slash. -/
theorem exists_parts_iff {atSegment : Bool} {before s : List Char}
    (hbefore : atSegment = decide (before.getLast? = some '/')) :
    (∃ ps, parts atSegment s = .ok ps) ↔ MarksFit before s := by
  induction atSegment, s using parts.induct generalizing before with
  | case1 atSegment => exact iff_of_true ⟨[], by rw [parts]⟩ (marksFit_nil before)
  | case2 atSegment s ih =>
    -- after the name the text goes on inside a segment
    have hrest : ∀ n, name s = .ok n → ((∃ later, parts false (s.drop n.length) = .ok later) ↔
        MarksFit (before ++ [':']) s) := by
      intro n hn
      rw [marksFit_name hn]
      exact ih n (decide_eq_false (getLast?_append_name hn _)).symm
    simp only [marksFit_cons, parts_colon_eq_ok, markFits_colon]
    constructor
    · rintro ⟨ps, n, later, hn, hlater, -⟩
      exact ⟨fun _ => ⟨n, hn⟩, (hrest n hn).1 ⟨later, hlater⟩⟩
    · rintro ⟨hname, hmarks⟩
      obtain ⟨n, hn⟩ := hname rfl
      obtain ⟨later, hlater⟩ := (hrest n hn).2 hmarks
      exact ⟨_, n, later, hn, hlater, rfl⟩
  | case3 atSegment s _ =>
    simp only [marksFit_cons, parts_star_eq_ok, markFits_star, hbefore, decide_eq_true_eq]
    constructor
    · rintro ⟨ps, n, hn, hlength, hsegment, -⟩
      refine ⟨fun _ => ⟨n, hn, hlength, hsegment⟩, ?_⟩
      -- nothing follows the name
      rw [marksFit_name hn, List.drop_eq_nil_of_le hlength]
      exact marksFit_nil _
    · rintro ⟨hname, -⟩
      obtain ⟨n, hn, hlength, hsegment⟩ := hname rfl
      exact ⟨_, n, hn, hlength, hsegment, rfl⟩
  | case4 atSegment c s hcolon hstar ih =>
    have hc : isMark c = false := by simp [isMark, hcolon, hstar]
    have hlater := @ih (before ++ [c]) (by simp)
    rw [marksFit_cons, and_iff_right (fun h => absurd h (by rw [hc]; decide)), ← hlater]
    simp only [parts_char_eq_ok hc]
    constructor
    · rintro ⟨ps, later, h, -⟩
      exact ⟨later, h⟩
    · rintro ⟨later, h⟩
      exact ⟨_, later, h, rfl⟩

/-! ## What a pattern stands for -/

/-- Each colon begins a parameter of its own. -/
theorem count_segment_parts {atSegment : Bool} {s : List Char} {ps : List RoutePart}
    (h : parts atSegment s = .ok ps) : ps.count .segment = s.count ':' := by
  have hname : ∀ {s n : List Char}, name s = .ok n → n.count ':' = 0 := by
    intro s n hn
    obtain ⟨-, -, hsingle⟩ := name_eq_ok.1 hn
    exact List.count_eq_zero.2 fun hmem => absurd (hsingle _ hmem) (by decide)
  -- the four cases of the parser; a name holds no colon, so skipping it loses none
  induction atSegment, s using parts.induct generalizing ps with
  | case1 atSegment =>
    rw [parts] at h
    cases h
    rfl
  | case2 atSegment s ih =>
    obtain ⟨n, later, hn, hlater, rfl⟩ := parts_colon_eq_ok.1 h
    have hcount : s.count ':' = (s.drop n.length).count ':' := by
      rw [← append_drop_name hn, List.count_append, hname hn]
      simp
    rw [List.count_cons_self, List.count_cons_self, ih n hlater, hcount]
  | case3 atSegment s _ =>
    obtain ⟨n, hn, hlength, -, rfl⟩ := parts_star_eq_ok.1 h
    have hs : n = s := by
      rw [← append_drop_name hn, List.drop_eq_nil_of_le hlength, List.append_nil]
    rw [← hs, List.count_cons_of_ne (by decide), List.count_cons_of_ne (by decide), hname hn]
    rfl
  | case4 atSegment c s hcolon hstar ih =>
    have hc : isMark c = false := by simp [isMark, hcolon, hstar]
    obtain ⟨later, hlater, rfl⟩ := (parts_char_eq_ok hc).1 h
    rw [List.count_cons_of_ne (by simp), List.count_cons_of_ne (by simpa using hcolon), ih hlater]

/-- A path is one that its own pattern stands for. -/
theorem isMatch_self {atSegment : Bool} {s : List Char} {ps : List RoutePart}
    (h : parts atSegment s = .ok ps) : isMatch ps s = true := by
  induction atSegment, s using parts.induct generalizing ps with
  | case1 atSegment =>
    rw [parts] at h
    cases h
    rfl
  | case2 atSegment s ih =>
    obtain ⟨n, later, hn, hlater, rfl⟩ := parts_colon_eq_ok.1 h
    -- the parameter takes its own mark and its name
    have hrest : n ++ s.dropWhile (· ≠ '/') = n ++ s.drop n.length := by
      rw [append_drop_name hn, (name_eq_ok.1 hn).1, List.takeWhile_append_dropWhile]
    have hdrop : (':' :: s).dropWhile (· ≠ '/') = s.drop n.length := by
      rw [List.dropWhile_cons_of_pos (by decide), List.append_cancel_left hrest]
    rw [isMatch, hdrop, ih n hlater, List.takeWhile_cons_of_pos (by decide)]
    rfl
  | case3 atSegment s _ =>
    obtain ⟨n, hn, hlength, -, rfl⟩ := parts_star_eq_ok.1 h
    rfl
  | case4 atSegment c s hcolon hstar ih =>
    have hc : isMark c = false := by simp [isMark, hcolon, hstar]
    obtain ⟨later, hlater, rfl⟩ := (parts_char_eq_ok hc).1 h
    rw [isMatch, beq_self_eq_true, Bool.true_and, ih hlater]

/-- A pattern without parameters stands for one path only. -/
theorem isMatch_map_char {s t : List Char} : isMatch (s.map .char) t = true ↔ t = s := by
  induction s generalizing t with
  | nil => simp [isMatch]
  | cons c s ih =>
    cases t with
    | nil => simp [isMatch]
    | cons d t =>
      rw [List.map_cons, isMatch, Bool.and_eq_true, ih, beq_iff_eq, List.cons.injEq,
        eq_comm (a := c)]

/-- A pattern without marks stands for itself. -/
theorem parts_eq_map {s : List Char} (h : ∀ c ∈ s, isMark c = false) (atSegment : Bool) :
    parts atSegment s = .ok (s.map .char) := by
  induction s generalizing atSegment with
  | nil => rw [parts, List.map_nil]
  | cons c s ih =>
    obtain ⟨hc, hs⟩ := List.forall_mem_cons.1 h
    exact (parts_char_eq_ok hc).2 ⟨_, ih hs _, rfl⟩

end Route

end FabricGauges
