import FabricGauges.Proofs.Json.Numeral
import FabricGauges.Proofs.Json.Tree
import FabricGauges.Proofs.Text.Percent

/-!
# The tokens of a written value

What has been written of a value is read as the tokens of a tree that shows the value again, but for
its doubles: a double stands there as it is read from its own text. A number waits for the character
that ends it, so a lexer has reached its tokens also where a number still could go on.
-/

namespace FabricGauges.Json

/-! ## Integers -/

namespace Numeral

/-- The numeral of a word is read as that word. -/
theorem integer?_eq_some {n : Numeral} {i : Int} (h : IsWord i)
    (hphase : n.phase = .zero ∨ n.phase = .whole) (hsign : n.negative = decide (i < 0))
    (hsignificand : n.significand.toNat = i.natAbs) : n.integer? = some i := by
  have hleast : Int64.minValue.toInt = -9223372036854775808 := by decide
  have hinteger : (if !n.negative then some (i.natAbs : Int)
      else if 0 < i.natAbs ∧ i.natAbs ≤ Int64.minValue.toInt.natAbs then some (-(i.natAbs : Int))
      else none) = some i := by
    rw [hsign]
    by_cases hneg : i < 0
    · have hbounds : 0 < i.natAbs ∧ i.natAbs ≤ Int64.minValue.toInt.natAbs := by
        have hlow := h.1
        rw [hleast] at hlow ⊢
        omega
      rw [decide_eq_true hneg, if_neg (by simp), if_pos hbounds, Int.ofNat_natAbs_of_nonpos hneg.le,
        neg_neg]
    · rw [decide_eq_false hneg, if_pos (by simp), Int.natAbs_of_nonneg (Int.not_lt.1 hneg)]
  unfold integer?
  dsimp only
  rw [hsignificand]
  rcases hphase with hphase | hphase <;> simpa only [hphase] using hinteger

/-- The digits of an integer that a word holds are read as the integer. -/
theorem exists_readsAs {i : Int} (h : IsWord i) : ∃ n : Numeral,
    ReadsAs (Nat.toDigits 10 i.natAbs) (i < 0) n ∧ n.isComplete = true ∧ n.integer? = some i := by
  have hlt : i.natAbs < UInt64.size := by
    have hleast : Int64.minValue.toInt = -9223372036854775808 := by decide
    have hlow := h.1
    have hhigh : i < 18446744073709551616 := h.2
    show i.natAbs < 18446744073709551616
    omega
  obtain ⟨c, cs, hcs⟩ := List.exists_cons_of_ne_nil (Nat.toDigits_ne_nil (n := i.natAbs) (b := 10))
  have hall := allDigits_toDigits i.natAbs
  have hvalue := ofDigitChars_toDigits i.natAbs
  -- a leading zero is only read alone
  have hzero : c = '0' → cs = [] := by
    rintro rfl
    have hnone : i.natAbs = 0 := eq_zero_of_head?_toDigits (by rw [hcs]; rfl)
    rw [hnone] at hcs
    exact (List.cons.inj hcs).2.symm
  rw [hcs] at hall hvalue
  have hread : cs.foldlM extend? (first (decide (i < 0)) c) = some _ :=
    foldlM_first hall hzero (by rwa [hvalue])
  rw [hvalue] at hread
  have hphase : (first (decide (i < 0)) c).phase = .zero ∨
      (first (decide (i < 0)) c).phase = .whole := by
    unfold first
    by_cases hc : c = '0' <;> simp [hc]
  refine ⟨_, ⟨c, cs, hcs, hall c List.mem_cons_self, hread⟩, ?_, ?_⟩
  · unfold isComplete
    rcases hphase with hphase | hphase <;> simp only [hphase]
  · exact integer?_eq_some h hphase rfl (UInt64.toNat_ofNat_of_lt' hlt)

end Numeral

/-! ## What a lexer has reached -/

namespace Lexer

/-- The tokens that a lexer has found once no more of a number comes. -/
def Reached (l : Lexer) (found : List Token) : Prop :=
  l = ⟨.between, found⟩ ∨
    ∃ n before, l = ⟨.numeral n, before⟩ ∧ n.isComplete = true ∧ found = n.token :: before

variable {l : Lexer} {found : List Token}

/-- A comma or a closing bracket ends a number. -/
theorem Reached.step (h : l.Reached found) {c : Char} (hc : c = ',' ∨ c = ']' ∨ c = '\x7d') :
    l.step c = (⟨.between, found⟩ : Lexer).begin c := by
  rcases h with rfl | ⟨n, before, rfl, hcomplete, rfl⟩
  · rfl
  · have hover : n.next c = .over := by
      unfold Numeral.isComplete at hcomplete
      rcases hc with rfl | rfl | rfl
      all_goals
        unfold Numeral.next
        split <;> simp_all [Numeral.next.afterWhole, Numeral.next.afterFraction, Char.isDigit]
    simp only [Lexer.step, hover]
    rfl

/-- At the end of a text, the tokens are those found so far. -/
theorem Reached.finish (h : l.Reached found) : l.finish = found.reverse := by
  rcases h with rfl | ⟨n, before, rfl, hcomplete, rfl⟩
  · rfl
  · show (n.last :: before).reverse = _
    rw [Numeral.last, if_pos hcomplete]

theorem reached_between (found : List Token) : Reached ⟨.between, found⟩ found := .inl rfl

/-! ## Numbers -/

/-- Inside a numeral, the lexer does what the numeral does. -/
theorem foldl_numeral {n n' : Numeral} {cs : List Char} (h : cs.foldlM Numeral.extend? n = some n')
    (found : List Token) : cs.foldl Lexer.step ⟨.numeral n, found⟩ = ⟨.numeral n', found⟩ := by
  induction cs generalizing n with
  | nil =>
    obtain rfl : n = n' := by simpa using h
    rfl
  | cons c cs ih =>
    rw [List.foldlM_cons] at h
    obtain ⟨m, hm, hrest⟩ := Option.bind_eq_some_iff.1 h
    have hnext : n.next c = .more m := by
      unfold Numeral.extend? at hm
      split at hm
      · next m' hmore => rw [hmore, Option.some.inj hm]
      · cases hm
    have hstep : Lexer.step ⟨.numeral n, found⟩ c = ⟨.numeral m, found⟩ := by
      simp only [Lexer.step, hnext]
    rw [List.foldl_cons, hstep, ih hrest]

theorem begin_digit {c : Char} (hc : c.isDigit = true) (found : List Token) :
    begin ⟨.between, found⟩ c = ⟨.numeral (Numeral.first false c), found⟩ := by
  have hbounds : 48 ≤ c.toNat ∧ c.toNat ≤ 57 := by
    simpa [Char.isDigit, UInt32.le_iff_toNat_le] using hc
  rw [← Char.ofNat_toNat c]
  generalize c.toNat = k at hbounds
  obtain ⟨hlow, hhigh⟩ := hbounds
  interval_cases k <;> rfl

theorem step_digit_after_sign {c : Char} (hc : c.isDigit = true) (found : List Token) :
    step ⟨.numeral (.start '-'), found⟩ c = ⟨.numeral (Numeral.first true c), found⟩ := by
  have hbounds : 48 ≤ c.toNat ∧ c.toNat ≤ 57 := by
    simpa [Char.isDigit, UInt32.le_iff_toNat_le] using hc
  rw [← Char.ofNat_toNat c]
  generalize c.toNat = k at hbounds
  obtain ⟨hlow, hhigh⟩ := hbounds
  interval_cases k <;> rfl

/-- A number is read up to what ends it. -/
theorem reached_number {text : List Char} {negative : Bool} {n : Numeral}
    (h : Numeral.ReadsAs text negative n) (hcomplete : n.isComplete = true) (found : List Token) :
    Reached (((if negative then ['-'] else []) ++ text).foldl Lexer.step ⟨.between, found⟩)
      (n.token :: found) := by
  obtain ⟨c, cs, rfl, hc, hread⟩ := h
  have hlast : Reached (cs.foldl Lexer.step ⟨.numeral (Numeral.first negative c), found⟩)
      (n.token :: found) := by
    rw [foldl_numeral hread]
    exact .inr ⟨n, found, rfl, hcomplete, rfl⟩
  cases negative with
  | true =>
    have hsign : Lexer.step ⟨.between, found⟩ '-' = ⟨.numeral (.start '-'), found⟩ := rfl
    rw [if_pos rfl, List.singleton_append, List.foldl_cons, hsign, List.foldl_cons,
      step_digit_after_sign hc]
    exact hlast
  | false =>
    have hfirst : Lexer.step ⟨.between, found⟩ c = ⟨.numeral (Numeral.first false c), found⟩ :=
      begin_digit hc found
    rw [if_neg Bool.false_ne_true, List.nil_append, List.foldl_cons, hfirst]
    exact hlast

/-! ## Texts -/

/-- A character of a text is read as itself, however it is written. -/
theorem foldl_escapeChar (c : Char) (latest : List (Option Char)) (found : List Token) :
    (escapeChar c).foldl Lexer.step ⟨.text (.chars latest), found⟩ =
      ⟨.text (.chars (some c :: latest)), found⟩ := by
  unfold escapeChar
  split_ifs with hquote hbackslash hback hfeed hline hreturn htab hcontrol
  · rw [hquote]
    rfl
  · rw [hbackslash]
    rfl
  · rw [hback]
    rfl
  · rw [hfeed]
    rfl
  · rw [hline]
    rfl
  · rw [hreturn]
    rfl
  · rw [htab]
    rfl
  -- the control characters without a short form, one by one
  · have hc : c = Char.ofNat c.toNat := (Char.ofNat_toNat c).symm
    clear hquote hbackslash hback hfeed hline hreturn htab
    generalize c.toNat = k at hcontrol hc
    rw [hc]
    interval_cases k <;> rfl
  · show (if c = '"' then _ else if c = '\\' then _ else if c.toNat < 0x20 then _ else _) = _
    rw [if_neg hquote, if_neg hbackslash, if_neg hcontrol]
    rfl

/-- Escaped characters are read back inside a text. -/
theorem foldl_escapeChars (cs : List Char) (latest : List (Option Char)) (found : List Token) :
    (cs.flatMap escapeChar).foldl Lexer.step ⟨.text (.chars latest), found⟩ =
      ⟨.text (.chars ((cs.map some).reverse ++ latest)), found⟩ := by
  induction cs generalizing latest with
  | nil => rfl
  | cons c cs ih =>
    rw [List.flatMap_cons, List.foldl_append, foldl_escapeChar, ih, List.map_cons,
      List.reverse_cons, List.append_assoc, List.singleton_append]

theorem finish_chars (cs : List Char) :
    (Content.chars (cs.map some).reverse).finish = .ok (String.ofList cs) := by
  have hall : (cs.map some).mapM (id : Option Char → Option Char) = some cs := by
    induction cs with
    | nil => rfl
    | cons c cs ih =>
      rw [List.map_cons, List.mapM_cons, ih]
      rfl
  unfold Content.finish
  dsimp only
  rw [List.reverse_reverse, hall]

/-- A text is read as itself. -/
theorem foldl_renderText (s : String) (found : List Token) :
    (renderText s).toList.foldl Lexer.step ⟨.between, found⟩ =
      ⟨.between, .text (.ok s) none :: found⟩ := by
  have htext : (renderText s).toList = '"' :: (s.toList.flatMap escapeChar ++ ['"']) := by
    simp [renderText]
  have hopen : Lexer.step ⟨.between, found⟩ '"' = ⟨.text (.chars []), found⟩ := rfl
  have hclose (content : Content) : Lexer.step ⟨.text content, found⟩ '"' =
    ⟨.between, .text content.finish none :: found⟩ := rfl
  rw [htext, List.foldl_cons, hopen, List.foldl_append, foldl_escapeChars, List.append_nil,
    List.foldl_cons, hclose, List.foldl_nil, finish_chars, String.ofList_toList]

end Lexer

/-! ## What is read of a value -/

mutual

/-- How deep lists and records are nested. -/
def depth : Json → Nat
  | .list items => depthItems items + 1
  | .record members => depthMembers members + 1
  | .null | .bool _ | .number _ | .text _ => 0

/-- How deep they are nested in the items of a list. -/
def depthItems : List Json → Nat
  | [] => 0
  | item :: rest => max item.depth (depthItems rest)

/-- How deep they are nested in the members of a record. -/
def depthMembers : List (String × Json) → Nat
  | [] => 0
  | (_, value) :: rest => max value.depth (depthMembers rest)

end

mutual

/-- All integers fit words, as those of every document do. -/
def IsWritable : Json → Prop
  | .number (.integer i) => IsWord i
  | .list items => AreWritableItems items
  | .record members => AreWritableMembers members
  | .null | .bool _ | .number (.double _) | .text _ => True

/-- All integers in items fit words. -/
def AreWritableItems : List Json → Prop
  | [] => True
  | item :: rest => item.IsWritable ∧ AreWritableItems rest

/-- All integers in members fit words. -/
def AreWritableMembers : List (String × Json) → Prop
  | [] => True
  | (_, value) :: rest => value.IsWritable ∧ AreWritableMembers rest

end

mutual

/-- The doubles in a value. -/
def doubles : Json → List Double
  | .number (.double x) => [x]
  | .list items => doublesOfItems items
  | .record members => doublesOfMembers members
  | .null | .bool _ | .number (.integer _) | .text _ => []

/-- The doubles in items. -/
def doublesOfItems : List Json → List Double
  | [] => []
  | item :: rest => item.doubles ++ doublesOfItems rest

/-- The doubles in members. -/
def doublesOfMembers : List (String × Json) → List Double
  | [] => []
  | (_, value) :: rest => value.doubles ++ doublesOfMembers rest

end

mutual

/-- The value with every double read where it was written; nothing when one of them is too large. -/
def reread? : Json → Option Json
  | .number (.double x) => do return ofDouble (← x.reread?)
  | .list items => do return .list (← rereadItems? items)
  | .record members => do return .record (← rereadMembers? members)
  | .null => some .null
  | .bool b => some (.bool b)
  | .number (.integer i) => some (.number (.integer i))
  | .text s => some (.text s)

/-- `reread?` on every item. -/
def rereadItems? : List Json → Option (List Json)
  | [] => some []
  | item :: rest => do return (← item.reread?) :: (← rereadItems? rest)

/-- `reread?` on the value of every member. -/
def rereadMembers? : List (String × Json) → Option (List (String × Json))
  | [] => some []
  | (name, value) :: rest => do return (name, ← value.reread?) :: (← rereadMembers? rest)

end

mutual

/-- The tree that the text of a value shows. -/
def tree : Json → Tree
  | .null => .leaf (.ok .null)
  | .bool b => .leaf (.ok (.bool b))
  | .number (.integer i) => .leaf (.ok (.number (.integer i)))
  | .number (.double x) =>
    .leaf <| match x.reread? with
      | some y => .ok (.number (.double y))
      | none => .error .numberOutOfRange
  | .text s => .text (.ok s)
  | .list items => .list (treesOfItems items)
  | .record members => .record (treesOfMembers members)

/-- The trees of items. -/
def treesOfItems : List Json → List Tree
  | [] => []
  | item :: rest => item.tree :: treesOfItems rest

/-- The trees of members. -/
def treesOfMembers : List (String × Json) → List (Except Malformed String × Tree)
  | [] => []
  | (name, value) :: rest => (.ok name, value.tree) :: treesOfMembers rest

end

/-! ## The tokens of a written value -/

open Lexer

theorem toList_toString (i : Int) :
    (toString i).toList = (if decide (i < 0) then ['-'] else []) ++ Nat.toDigits 10 i.natAbs := by
  show i.repr.toList = _
  rw [Int.repr_eq_if]
  by_cases hneg : i < 0
  · have hnat : (-i).toNat = i.natAbs := by omega
    rw [if_neg (by omega), if_pos (decide_eq_true hneg), hnat, Nat.repr_eq_ofList_toDigits]
    simp
  · have hnat : i.toNat = i.natAbs := by omega
    rw [if_pos (by omega), if_neg (by simp [hneg]), hnat, Nat.repr_eq_ofList_toDigits]
    simp

/-- A word is read back from its digits. -/
theorem reached_integer {i : Int} (h : IsWord i) (found : List Token) :
    Reached ((toString i).toList.foldl Lexer.step ⟨.between, found⟩)
      (.leaf (.ok (.number (.integer i))) none :: found) := by
  obtain ⟨n, hreads, hcomplete, hinteger⟩ := Numeral.exists_readsAs h
  have htoken : n.token = .leaf (.ok (.number (.integer i))) none := by
    simp only [Numeral.token, Numeral.number?, hinteger]
  rw [toList_toString, ← htoken]
  exact reached_number hreads hcomplete found

/-- A double is read as the number that its text stands for. -/
theorem reached_double (x : Double) (found : List Token) :
    Reached ((Layout.quoted.render x).toList.foldl Lexer.step ⟨.between, found⟩)
      ((ofDouble x).tree.tokens.reverse ++ found) := by
  obtain ⟨n, hreads, hcomplete, hinteger, hdouble⟩ := x.exists_readsAs
  have htoken : [n.token] = (ofDouble x).tree.tokens := by
    simp only [Numeral.token, Numeral.number?, hinteger, hdouble, ofDouble, tree, Tree.tokens]
    cases x.reread? <;> rfl
  have htext : (Layout.quoted.render x).toList =
      (if x.negative then ['-'] else []) ++ (Layout.quoted.magnitude x.shortest).toList := by
    unfold Layout.render
    cases x.negative <;> simp
  rw [htext, ← htoken]
  exact reached_number hreads hcomplete found

theorem intercalate_cons (c : Char) (text : List Char) (texts : List (List Char)) :
    [c].intercalate (text :: texts) = text ++ texts.flatMap (c :: ·) := by
  induction texts generalizing text with
  | nil => simp
  | cons next texts ih => rw [List.intercalate_cons_cons, ih]; simp

/-- The text of items that follow others. -/
def restOfItems (items : List Json) : List Char :=
  ((renderItems items).map String.toList).flatMap (',' :: ·)

/-- The text of members that follow others. -/
def restOfMembers (members : List (String × Json)) : List Char :=
  ((renderMembers members).map String.toList).flatMap (',' :: ·)

theorem restOfItems_cons (item : Json) (rest : List Json) :
    restOfItems (item :: rest) = ',' :: (item.render.toList ++ restOfItems rest) := by
  simp [restOfItems, renderItems]

theorem restOfMembers_cons (name : String) (value : Json) (rest : List (String × Json)) :
    restOfMembers ((name, value) :: rest) =
      ',' :: ((renderText name).toList ++ ':' :: (value.render.toList ++ restOfMembers rest)) := by
  simp [restOfMembers, renderMembers]

/-- A list is written item by item, between brackets. -/
theorem toList_render_list (item : Json) (rest : List Json) :
    (Json.list (item :: rest)).render.toList =
      '[' :: (item.render.toList ++ (restOfItems rest ++ [']'])) := by
  simp [render, renderItems, String.toList_intercalate, intercalate_cons, restOfItems]

/-- A record is written member by member, between braces. -/
theorem toList_render_record (name : String) (value : Json) (rest : List (String × Json)) :
    (Json.record ((name, value) :: rest)).render.toList =
      '\x7b' :: ((renderText name).toList ++
        ':' :: (value.render.toList ++ (restOfMembers rest ++ ['\x7d']))) := by
  simp [render, renderMembers, String.toList_intercalate, intercalate_cons, restOfMembers]

/-- A name and a colon. -/
theorem foldl_name (name : String) (text : List Char) (found : List Token) :
    ((renderText name).toList ++ ':' :: text).foldl Lexer.step ⟨.between, found⟩ =
      text.foldl Lexer.step ⟨.between, .colon :: .text (.ok name) none :: found⟩ := by
  rw [List.foldl_append, foldl_renderText, List.foldl_cons]
  rfl

mutual

/-- What has been written of a value is read as the tokens of its tree. -/
theorem reached_render : (j : Json) → j.IsWritable → (found : List Token) →
    Reached (j.render.toList.foldl Lexer.step ⟨.between, found⟩) (j.tree.tokens.reverse ++ found)
  | .null, _, found | .bool true, _, found | .bool false, _, found => reached_between _
  | .number (.integer i), h, found => reached_integer h found
  | .number (.double x), _, found => reached_double x found
  | .text s, _, found => by
    rw [render, foldl_renderText]
    exact reached_between _
  | .list [], _, found => reached_between _
  | .list (item :: rest), h, found => by
    have hopen : Lexer.step ⟨.between, found⟩ '[' = ⟨.between, .openList :: found⟩ := rfl
    rw [toList_render_list, List.foldl_cons, hopen, List.foldl_append]
    -- the first item, and then the others with their commas
    have hitem := reached_render item h.1 (.openList :: found)
    rw [foldl_restOfItems rest h.2 hitem]
    simpa [tree, treesOfItems, Tree.tokens, Tree.itemTokens] using reached_between _
  | .record [], _, found => reached_between _
  | .record ((name, value) :: rest), h, found => by
    have hopen : Lexer.step ⟨.between, found⟩ '\x7b' = ⟨.between, .openRecord :: found⟩ := rfl
    rw [toList_render_record, List.foldl_cons, hopen, foldl_name, List.foldl_append]
    have hvalue := reached_render value h.1 (.colon :: .text (.ok name) none :: .openRecord :: found)
    rw [foldl_restOfMembers rest h.2 hvalue]
    simpa [tree, treesOfMembers, Tree.tokens, Tree.memberTokens] using reached_between _

/-- The items behind an item, and the end of their list. -/
theorem foldl_restOfItems : (items : List Json) → AreWritableItems items → {l : Lexer} →
    {found : List Token} → l.Reached found →
    (restOfItems items ++ [']']).foldl Lexer.step l =
      ⟨.between, (Tree.laterItemTokens (treesOfItems items)).reverse ++ found⟩
  | [], _, l, found, hl => by
    show l.step ']' = _
    rw [hl.step (.inr (.inl rfl))]
    rfl
  | item :: rest, h, l, found, hl => by
    have hcomma : l.step ',' = ⟨.between, .comma :: found⟩ := by
      rw [hl.step (.inl rfl)]
      rfl
    rw [restOfItems_cons, List.cons_append, List.append_assoc, List.foldl_cons, hcomma,
      List.foldl_append]
    have hitem := reached_render item h.1 (.comma :: found)
    rw [foldl_restOfItems rest h.2 hitem]
    simp [treesOfItems, Tree.laterItemTokens]

/-- The members behind a member, and the end of their record. -/
theorem foldl_restOfMembers : (members : List (String × Json)) → AreWritableMembers members →
    {l : Lexer} → {found : List Token} → l.Reached found →
    (restOfMembers members ++ ['\x7d']).foldl Lexer.step l =
      ⟨.between, (Tree.laterMemberTokens (treesOfMembers members)).reverse ++ found⟩
  | [], _, l, found, hl => by
    show l.step '\x7d' = _
    rw [hl.step (.inr (.inr rfl))]
    rfl
  | (name, value) :: rest, h, l, found, hl => by
    have hcomma : l.step ',' = ⟨.between, .comma :: found⟩ := by
      rw [hl.step (.inl rfl)]
      rfl
    rw [restOfMembers_cons, List.cons_append, List.append_assoc, List.cons_append, List.append_assoc,
      List.foldl_cons, hcomma, foldl_name, List.foldl_append]
    have hvalue := reached_render value h.1 (.colon :: .text (.ok name) none :: .comma :: found)
    rw [foldl_restOfMembers rest h.2 hvalue]
    simp [treesOfMembers, Tree.laterMemberTokens]

end

/-- The text of a value has the tokens of its tree. -/
theorem tokens_render {j : Json} (h : j.IsWritable) : tokens j.render = j.tree.tokens := by
  have hreached := reached_render j h []
  rw [List.append_nil] at hreached
  show Lexer.finish _ = _
  rw [Lexer.start, hreached.finish, List.reverse_reverse]

end FabricGauges.Json
