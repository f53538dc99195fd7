import FabricGauges.Json.Printer
import FabricGauges.Json.Token
import FabricGauges.Proofs.Decimal.Scaled
import Mathlib.Tactic.IntervalCases

/-!
# The literals of written numbers

A number literal is read one character after the other, and each part of it changes its own fields:
integral digits the significand, digits behind the point the significand and the scale, and the
digits of the exponent the exponent. As long as the significand has room for the digits, it is their
number. Seventeen digits fit, so every text of a double is read as the decimal that it shows.
-/

namespace FabricGauges.Json.Numeral

/-- One character further in a literal that it belongs to. -/
def extend? (n : Numeral) (c : Char) : Option Numeral :=
  match n.next c with
  | .more n => some n
  | _ => none

/-- The literal of one digit, behind a minus sign if there is one. -/
def first (negative : Bool) (c : Char) : Numeral :=
  ⟨negative, if c = '0' then .zero else .whole, .ofNat (digit c), 0, false, 0⟩

/-- A text begins with a digit, and with its sign in front it is read as a literal. -/
def ReadsAs (text : List Char) (negative : Bool) (n : Numeral) : Prop :=
  ∃ c cs, text = c :: cs ∧ c.isDigit = true ∧ cs.foldlM extend? (first negative c) = some n

/-! ## Digits -/

/-- All characters are decimal digits. -/
def AllDigits (cs : List Char) : Prop := ∀ c ∈ cs, c.isDigit = true

theorem allDigits_append {cs ds : List Char} : AllDigits (cs ++ ds) ↔ AllDigits cs ∧ AllDigits ds :=
  List.forall_mem_append

theorem le_ofDigitChars (cs : List Char) (init : Nat) : init ≤ Nat.ofDigitChars 10 cs init := by
  induction cs generalizing init with
  | nil => exact le_rfl
  | cons c cs ih =>
    rw [Nat.ofDigitChars_cons]
    exact le_trans (by omega) (ih _)

/-- A digit is taken up as long as the significand stays a word. -/
theorem exists_push? {n : Numeral} {c : Char} {cs : List Char}
    (h : Nat.ofDigitChars 10 (c :: cs) n.significand.toNat < UInt64.size) :
    ∃ significand : UInt64, n.push? c = some significand ∧
      Nat.ofDigitChars 10 (c :: cs) n.significand.toNat =
        Nat.ofDigitChars 10 cs significand.toNat := by
  rw [Nat.ofDigitChars_cons] at h ⊢
  have hlt := lt_of_le_of_lt (le_ofDigitChars cs _) h
  refine ⟨_, ?_, by rw [UInt64.toNat_ofNat_of_lt' hlt]⟩
  unfold push? digit
  dsimp only
  rw [mul_comm, if_pos hlt]

theorem place_eq {n : Numeral} {c : Char} {significand : UInt64}
    (h : n.push? c = some significand) :
    next.place n c = { n with phase := .fraction, significand, scale := n.scale - 1 } := by
  unfold next.place
  simp only [h]

/-- Integral digits for which there is room. -/
theorem foldlM_whole {n : Numeral} (hphase : n.phase = .whole) {cs : List Char}
    (hcs : AllDigits cs)
    (hlt : Nat.ofDigitChars 10 cs n.significand.toNat < UInt64.size) :
    cs.foldlM extend? n =
      some { n with significand := .ofNat (Nat.ofDigitChars 10 cs n.significand.toNat) } := by
  induction cs generalizing n with
  | nil => simp [Nat.ofDigitChars]
  | cons c cs ih =>
    obtain ⟨hc, hcs⟩ := List.forall_mem_cons.1 hcs
    obtain ⟨significand, hpush, hvalue⟩ := exists_push? hlt
    have hnext : extend? n c = some { n with significand } := by
      simp [extend?, next, hphase, hc, hpush]
    rw [hvalue] at hlt ⊢
    have hrest := ih (n := { n with significand }) hphase hcs hlt
    rw [List.foldlM_cons, hnext, Option.bind_eq_bind, Option.bind_some, hrest]

/-- Digits after the point for which there is room. -/
theorem foldlM_fraction {n : Numeral} (hphase : n.phase = .fraction) {cs : List Char}
    (hcs : AllDigits cs)
    (hlt : Nat.ofDigitChars 10 cs n.significand.toNat < UInt64.size) :
    cs.foldlM extend? n =
      some { n with
        significand := .ofNat (Nat.ofDigitChars 10 cs n.significand.toNat)
        scale := n.scale - cs.length } := by
  -- each digit lowers the scale by one, as long as the significand has room
  induction cs generalizing n with
  | nil => simp [Nat.ofDigitChars]
  | cons c cs ih =>
    obtain ⟨hc, hcs⟩ := List.forall_mem_cons.1 hcs
    obtain ⟨significand, hpush, hvalue⟩ := exists_push? hlt
    have hplace := place_eq hpush
    have hnext : extend? n c = some (next.place n c) := by
      simp only [extend?, next, hphase, if_pos hc]
    rw [hplace, ← hphase] at hnext
    rw [hvalue] at hlt ⊢
    have hrest := ih (n := { n with significand, scale := n.scale - 1 }) hphase hcs hlt
    have hscale : n.scale - 1 - cs.length = n.scale - (c :: cs).length := by
      rw [List.length_cons]
      push_cast
      ring
    rw [List.foldlM_cons, hnext, Option.bind_eq_bind, Option.bind_some, hrest, hscale]

/-- The digits of an exponent. -/
theorem foldlM_exponent {n : Numeral} (hphase : n.phase = .exponent) {cs : List Char}
    (hcs : AllDigits cs) :
    cs.foldlM extend? n = some { n with exponent := Nat.ofDigitChars 10 cs n.exponent } := by
  induction cs generalizing n with
  | nil => simp [Nat.ofDigitChars]
  | cons c cs ih =>
    obtain ⟨hc, hcs⟩ := List.forall_mem_cons.1 hcs
    have hnext : extend? n c = some { n with exponent := n.exponent * 10 + digit c } := by
      simp [extend?, next, hphase, hc]
    have hrest := ih (n := { n with exponent := n.exponent * 10 + digit c }) hphase hcs
    rw [List.foldlM_cons, hnext, Option.bind_eq_bind, Option.bind_some, hrest, Nat.ofDigitChars_cons,
      mul_comm n.exponent]
    rfl

/-! ## Parts of a literal -/

variable {negative : Bool} {c : Char} {cs : List Char}

/-- Integral digits: those of a number without a leading zero. -/
theorem foldlM_first (hcs : AllDigits (c :: cs)) (hzero : c = '0' → cs = [])
    (hlt : Nat.ofDigitChars 10 (c :: cs) 0 < UInt64.size) :
    cs.foldlM extend? (first negative c) =
      some { first negative c with significand := .ofNat (Nat.ofDigitChars 10 (c :: cs) 0) } := by
  rw [Nat.ofDigitChars_cons, mul_zero, zero_add] at hlt ⊢
  have hdigit : (UInt64.ofNat (digit c)).toNat = c.toNat - '0'.toNat :=
    UInt64.toNat_ofNat_of_lt' (lt_of_le_of_lt (le_ofDigitChars cs _) hlt)
  by_cases hc : c = '0'
  · rw [hzero hc]
    rfl
  · have hphase : (first negative c).phase = .whole := if_neg hc
    have hwhole := foldlM_whole hphase (List.forall_mem_cons.1 hcs).2
      (show Nat.ofDigitChars 10 cs (UInt64.ofNat (digit c)).toNat < _ by rwa [hdigit])
    rw [hwhole]
    show some { first negative c with
      significand := UInt64.ofNat (Nat.ofDigitChars 10 cs (UInt64.ofNat (digit c)).toNat) } = _
    rw [hdigit]

/-- A point and the digits behind it. -/
theorem foldlM_point {n : Numeral} (hphase : n.phase = .zero ∨ n.phase = .whole) (hcs : cs ≠ [])
    (hdigits : AllDigits cs)
    (hlt : Nat.ofDigitChars 10 cs n.significand.toNat < UInt64.size) :
    ('.' :: cs).foldlM extend? n =
      some { n with
        phase := .fraction
        significand := .ofNat (Nat.ofDigitChars 10 cs n.significand.toNat)
        scale := n.scale - cs.length } := by
  obtain ⟨c, cs, rfl⟩ := List.exists_cons_of_ne_nil hcs
  obtain ⟨hc, hcs⟩ := List.forall_mem_cons.1 hdigits
  obtain ⟨significand, hpush, hvalue⟩ := exists_push? hlt
  -- the point, the first digit behind it and then the others
  have hpoint : extend? n '.' = some { n with phase := .point } := by
    rcases hphase with hphase | hphase <;>
      simp [extend?, next, next.afterWhole, hphase, show '.'.isDigit = false from rfl]
  have hnext : extend? { n with phase := .point } c =
      some (next.place { n with phase := .point } c) := by
    simp only [extend?, next, if_pos hc]
  rw [place_eq (n := { n with phase := .point }) hpush] at hnext
  rw [hvalue] at hlt ⊢
  have hrest :=
    foldlM_fraction (n := { n with phase := .fraction, significand, scale := n.scale - 1 })
      rfl hcs hlt
  have hscale : n.scale - 1 - cs.length = n.scale - (c :: cs).length := by
    rw [List.length_cons]
    push_cast
    ring
  rw [List.foldlM_cons, hpoint, Option.bind_eq_bind, Option.bind_some, List.foldlM_cons, hnext,
    Option.bind_eq_bind, Option.bind_some, hrest, hscale]

/-- An exponent with its sign. -/
theorem foldlM_mark {n : Numeral}
    (hphase : n.phase = .zero ∨ n.phase = .whole ∨ n.phase = .fraction)
    (hnew : n.exponentNegative = false) (minus : Bool) (hcs : cs ≠ [])
    (hdigits : AllDigits cs) :
    ('e' :: (if minus then '-' else '+') :: cs).foldlM extend? n =
      some { n with
        phase := .exponent
        exponentNegative := minus
        exponent := Nat.ofDigitChars 10 cs 0 } := by
  obtain ⟨c, cs, rfl⟩ := List.exists_cons_of_ne_nil hcs
  obtain ⟨hc, hcs⟩ := List.forall_mem_cons.1 hdigits
  -- the mark, the sign, the first digit and then the others
  have hmark : extend? n 'e' = some { n with phase := .mark } := by
    rcases hphase with hphase | hphase | hphase <;>
      simp [extend?, next, next.afterWhole, next.afterFraction, hphase,
        show 'e'.isDigit = false from rfl]
  have hsign : extend? { n with phase := .mark } (if minus then '-' else '+') =
      some { n with phase := .markSign, exponentNegative := minus } := by
    cases minus <;> simp [extend?, next, hnew]
  have hnext : extend? { n with phase := .markSign, exponentNegative := minus } c =
      some { n with phase := .exponent, exponentNegative := minus, exponent := digit c } := by
    simp [extend?, next, hc]
  have hrest := foldlM_exponent
    (n := { n with phase := .exponent, exponentNegative := minus, exponent := digit c }) rfl hcs
  rw [List.foldlM_cons, hmark, Option.bind_eq_bind, Option.bind_some, List.foldlM_cons, hsign,
    Option.bind_eq_bind, Option.bind_some, List.foldlM_cons, hnext, Option.bind_eq_bind,
    Option.bind_some, hrest, Nat.ofDigitChars_cons, mul_zero, zero_add]
  rfl

/-! ## Decimal text -/

/-- The digits of a positive number do not begin with a zero. -/
theorem head?_toDigits {n : Nat} (hn : 0 < n) : (Nat.toDigits 10 n).head? ≠ some '0' := by
  induction n using Nat.strongRecOn with
  | ind n ih =>
    rw [Nat.toDigits_eq_if (by norm_num)]
    split
    · next hlt =>
      interval_cases n <;> decide
    · next hge =>
      rw [List.head?_append_of_ne_nil _ Nat.toDigits_ne_nil]
      exact ih _ (by omega) (by omega)

theorem allDigits_toDigits (n : Nat) : AllDigits (Nat.toDigits 10 n) :=
  fun _ hc => Nat.isDigit_of_mem_toDigits (by norm_num) (by norm_num) hc

theorem ofDigitChars_zeros (k init : Nat) :
    Nat.ofDigitChars 10 (List.replicate k '0') init = init * 10 ^ k := by
  induction k generalizing init with
  | zero => simp [Nat.ofDigitChars]
  | succ k ih =>
    rw [List.replicate_succ, Nat.ofDigitChars_cons, ih]
    show (10 * init + 0) * 10 ^ k = init * 10 ^ (k + 1)
    ring

theorem allDigits_zeros (k : Nat) : AllDigits (List.replicate k '0') := by
  intro c hc
  rw [List.eq_of_mem_replicate hc]
  rfl

/-- A literal with integral digits, which have no leading zero, and digits behind a point. -/
theorem readsAs_decimal (negative : Bool) (whole places : List Char) (hwhole : whole ≠ [])
    (hplaces : places ≠ []) (hdigits : AllDigits (whole ++ places))
    (hzero : whole.head? = some '0' → whole = ['0'])
    (hlt : Nat.ofDigitChars 10 (whole ++ places) 0 < UInt64.size) :
    ReadsAs (whole ++ '.' :: places) negative
      ⟨negative, .fraction, .ofNat (Nat.ofDigitChars 10 (whole ++ places) 0), -places.length, false,
        0⟩ := by
  obtain ⟨c, cs, rfl⟩ := List.exists_cons_of_ne_nil hwhole
  obtain ⟨hcs, hplacesDigits⟩ := allDigits_append.1 hdigits
  have hzero' : c = '0' → cs = [] := by
    rintro rfl
    exact (List.cons.inj (hzero rfl)).2
  rw [Nat.ofDigitChars_append] at hlt ⊢
  have hlt' : Nat.ofDigitChars 10 (c :: cs) 0 < UInt64.size :=
    lt_of_le_of_lt (le_ofDigitChars places _) hlt
  have hvalue : (UInt64.ofNat (Nat.ofDigitChars 10 (c :: cs) 0)).toNat =
      Nat.ofDigitChars 10 (c :: cs) 0 := UInt64.toNat_ofNat_of_lt' hlt'
  refine ⟨c, cs ++ '.' :: places, rfl, hcs c List.mem_cons_self, ?_⟩
  rw [List.foldlM_append, foldlM_first hcs hzero' hlt', Option.bind_eq_bind, Option.bind_some]
  have hphase : (first negative c).phase = .zero ∨ (first negative c).phase = .whole := by
    unfold first
    by_cases hc : c = '0' <;> simp [hc]
  have hpoint := foldlM_point (n := { first negative c with
    significand := .ofNat (Nat.ofDigitChars 10 (c :: cs) 0) }) hphase hplaces hplacesDigits
    (by rw [hvalue]; exact hlt)
  rw [hpoint]
  simp only [hvalue, first, zero_sub]

theorem ofDigitChars_toDigits (n : Nat) : Nat.ofDigitChars 10 (Nat.toDigits 10 n) 0 = n :=
  Nat.ofDigitChars_toDigits (by norm_num) (by norm_num)

/-- A number whose digits begin with a zero is zero. -/
theorem eq_zero_of_head?_toDigits {n : Nat} (h : (Nat.toDigits 10 n).head? = some '0') : n = 0 := by
  by_contra hn
  exact head?_toDigits (Nat.pos_of_ne_zero hn) h

/-! ## The text of a decimal -/

/-- A decimal with a whole value is read back with a zero behind its point. -/
theorem readsAs_integral (negative : Bool) {digits zeros : Nat} (hzero : digits = 0 → zeros = 0)
    (hlt : digits * 10 ^ (zeros + 1) < UInt64.size) :
    ReadsAs (Nat.toDigits 10 digits ++ List.replicate zeros '0' ++ ['.', '0']) negative
      ⟨negative, .fraction, .ofNat (digits * 10 ^ (zeros + 1)), -1, false, 0⟩ := by
  set whole := Nat.toDigits 10 digits ++ List.replicate zeros '0' with hwhole
  have hvalue : Nat.ofDigitChars 10 (whole ++ ['0']) 0 = digits * 10 ^ (zeros + 1) := by
    rw [hwhole, Nat.ofDigitChars_append, Nat.ofDigitChars_append, ofDigitChars_toDigits,
      ofDigitChars_zeros]
    show 10 * (digits * 10 ^ zeros) + 0 = _
    ring
  have hfirst : whole.head? = some '0' → whole = ['0'] := by
    rw [hwhole, List.head?_append_of_ne_nil _ Nat.toDigits_ne_nil]
    intro hhead
    have hnone := eq_zero_of_head?_toDigits hhead
    rw [hnone, hzero hnone]
    rfl
  have hall : AllDigits (whole ++ ['0']) := allDigits_append.2
    ⟨allDigits_append.2 ⟨allDigits_toDigits _, allDigits_zeros _⟩, allDigits_zeros 1⟩
  have h := readsAs_decimal negative whole ['0'] (by simp [hwhole, Nat.toDigits_ne_nil])
    (List.cons_ne_nil _ _) hall hfirst (by rwa [hvalue])
  rwa [hvalue] at h

/-- A decimal whose point stands between its digits is read back. -/
theorem readsAs_inside (negative : Bool) {digits places : Nat} (hpos : 0 < places)
    (hplaces : places < (Nat.toDigits 10 digits).length) (hlt : digits < UInt64.size) :
    ReadsAs ((Nat.toDigits 10 digits).take ((Nat.toDigits 10 digits).length - places) ++
        '.' :: (Nat.toDigits 10 digits).drop ((Nat.toDigits 10 digits).length - places)) negative
      ⟨negative, .fraction, .ofNat digits, -places, false, 0⟩ := by
  set all := Nat.toDigits 10 digits with hall
  have hsplit := List.take_append_drop (all.length - places) all
  have hvalue : Nat.ofDigitChars 10 all 0 = digits := ofDigitChars_toDigits digits
  have hlength : (all.drop (all.length - places)).length = places := by
    rw [List.length_drop]
    omega
  -- a number begins with a zero only if it has no other digit
  have hfirst : (all.take (all.length - places)).head? = some '0' →
      all.take (all.length - places) = ['0'] := by
    intro hhead
    rw [List.head?_take, if_neg (by omega)] at hhead
    rw [hall, eq_zero_of_head?_toDigits hhead] at hplaces
    exact absurd hplaces (by show ¬places < 1; omega)
  have hwhole : all.take (all.length - places) ≠ [] := by
    rw [← List.length_pos_iff, List.length_take]
    omega
  have hrest : all.drop (all.length - places) ≠ [] := by
    rw [← List.length_pos_iff, hlength]
    exact hpos
  have h := readsAs_decimal negative _ _ hwhole hrest
    (by rw [hsplit]; exact allDigits_toDigits digits) hfirst (by rwa [hsplit, hvalue])
  rwa [hsplit, hvalue, hlength] at h

/-- A decimal whose digits stand behind zeros is read back. -/
theorem readsAs_below (negative : Bool) {digits places : Nat}
    (hplaces : (Nat.toDigits 10 digits).length ≤ places) (hlt : digits < UInt64.size) :
    ReadsAs ('0' :: '.' :: List.replicate (places - (Nat.toDigits 10 digits).length) '0' ++
        Nat.toDigits 10 digits) negative
      ⟨negative, .fraction, .ofNat digits, -places, false, 0⟩ := by
  set rest := List.replicate (places - (Nat.toDigits 10 digits).length) '0' ++
    Nat.toDigits 10 digits with hrest
  have hvalue : Nat.ofDigitChars 10 (['0'] ++ rest) 0 = digits := by
    rw [hrest, Nat.ofDigitChars_append, Nat.ofDigitChars_append, ofDigitChars_zeros]
    show Nat.ofDigitChars 10 _ (0 * _) = _
    rw [zero_mul, ofDigitChars_toDigits]
  have hlength : rest.length = places := by
    rw [hrest, List.length_append, List.length_replicate]
    omega
  have hall : AllDigits (['0'] ++ rest) := allDigits_append.2
    ⟨allDigits_zeros 1, allDigits_append.2 ⟨allDigits_zeros _, allDigits_toDigits _⟩⟩
  have h := readsAs_decimal negative ['0'] rest (List.cons_ne_nil _ _)
    (by simp [hrest, Nat.toDigits_ne_nil]) hall (fun _ => rfl) (by rwa [hvalue])
  rwa [hvalue, hlength] at h

/-- What the text of a decimal shows: a positional one without places gets a place. -/
def shown (d : Decimal) (positional : Bool) : Decimal :=
  if positional ∧ 0 ≤ d.exponent then ⟨d.digits * 10 ^ (d.exponent.toNat + 1), -1⟩ else d

/-- A decimal that is written without an exponent is read back. -/
theorem readsAs_positional (negative : Bool) {d : Decimal} (hzero : d.digits = 0 → d.exponent = 0)
    (hlt : (shown d true).digits < UInt64.size) :
    ReadsAs (Layout.positional d).toList negative
      ⟨negative, .fraction, .ofNat (shown d true).digits, (shown d true).exponent, false, 0⟩ := by
  unfold shown at hlt ⊢
  unfold Layout.positional
  dsimp only
  split
  -- zeros are put behind the digits and the point behind them
  · have hexp : 0 ≤ d.exponent := by omega
    rw [if_pos ⟨rfl, hexp⟩] at hlt ⊢
    rw [String.toList_ofList]
    exact readsAs_integral negative (fun h => by rw [hzero h]; rfl) hlt
  · have hexp : ¬(true = true ∧ 0 ≤ d.exponent) := by
      rintro ⟨-, hexp⟩
      omega
    -- the point stands between the digits, or zeros stand before them
    have hplaces : d.exponent = -((-d.exponent).toNat : Int) := by omega
    rw [if_neg hexp] at hlt ⊢
    split
    · next hinside =>
      rw [String.toList_ofList]
      have h := readsAs_inside negative (by omega) hinside hlt
      rwa [← hplaces] at h
    · next hbelow =>
      rw [String.toList_ofList]
      have h := readsAs_below negative (Nat.le_of_not_lt hbelow) hlt
      rwa [← hplaces] at h

/-- A point and digits, if there are any. -/
def fraction : List Char → List Char
  | [] => []
  | cs => '.' :: cs

/-- The digits of a number with a point behind the first one, if there are others. -/
theorem foldlM_leading (negative : Bool) {digits : Nat} (hpos : 0 < digits)
    (hlt : digits < UInt64.size) :
    ∃ c cs, Nat.toDigits 10 digits = c :: cs ∧ c.isDigit = true ∧ ∃ n : Numeral,
      (fraction cs).foldlM extend? (first negative c) = some n ∧
        (n.phase = .whole ∨ n.phase = .fraction) ∧
        n = ⟨negative, n.phase, .ofNat digits, -cs.length, false, 0⟩ := by
  obtain ⟨c, cs, hcs⟩ := List.exists_cons_of_ne_nil (Nat.toDigits_ne_nil (n := digits) (b := 10))
  have hall := allDigits_toDigits digits
  have hvalue := ofDigitChars_toDigits digits
  have hc : c ≠ '0' := fun h => head?_toDigits hpos (by rw [hcs, h]; rfl)
  rw [hcs] at hall hvalue
  refine ⟨c, cs, hcs, hall c List.mem_cons_self, ?_⟩
  -- a single digit has no point behind it
  cases cs with
  | nil =>
    refine ⟨first negative c, rfl, .inl (if_neg hc), ?_⟩
    have hdigit : Nat.ofDigitChars 10 [c] 0 = digit c := by
      rw [Nat.ofDigitChars_cons, mul_zero, zero_add]
      rfl
    rw [← hvalue, hdigit]
    rfl
  | cons d ds =>
    obtain ⟨c', cs', hcons, -, hread⟩ := readsAs_decimal negative [c] (d :: ds) (List.cons_ne_nil _ _)
      (List.cons_ne_nil _ _) hall (by simp [hc]) (by rw [List.singleton_append, hvalue]; exact hlt)
    obtain ⟨rfl, rfl⟩ := List.cons.inj hcons
    rw [List.singleton_append, hvalue] at hread
    exact ⟨_, hread, .inr rfl, rfl⟩

/-- A decimal that is written with an exponent is read back. -/
theorem readsAs_scientific (negative : Bool) {d : Decimal} (hpos : 0 < d.digits)
    (hlt : d.digits < UInt64.size) (lead : Int) :
    ReadsAs (Layout.quoted.scientific d lead).toList negative
      ⟨negative, .exponent, .ofNat d.digits, 1 - (Double.decimalLength d.digits : Int), lead < 0,
        lead.natAbs⟩ := by
  obtain ⟨c, cs, hcs, hc, n, hread, hphase, hn⟩ := foldlM_leading negative hpos hlt
  have hlength : (Double.decimalLength d.digits : Int) = cs.length + 1 := by
    have h := congrArg List.length hcs
    rw [List.length_cons] at h
    exact_mod_cast h
  set padding :=
    List.replicate (Layout.quoted.exponentWidth - (Nat.toDigits 10 lead.natAbs).length) '0'
    with hpadding
  have hexponent : AllDigits (padding ++ Nat.toDigits 10 lead.natAbs) :=
    allDigits_append.2 ⟨allDigits_zeros _, allDigits_toDigits _⟩
  have hvalue : Nat.ofDigitChars 10 (padding ++ Nat.toDigits 10 lead.natAbs) 0 = lead.natAbs := by
    rw [Nat.ofDigitChars_append, ofDigitChars_zeros, zero_mul, ofDigitChars_toDigits]
  -- the point moves behind the first digit, and the exponent says by how much
  have hmark := foldlM_mark (n := n) (by rcases hphase with h | h <;> simp [h]) (by rw [hn])
    (decide (lead < 0)) (by simp [Nat.toDigits_ne_nil]) hexponent
  have hsign : (if lead < 0 then ['-'] else if Layout.quoted.plusSign then ['+'] else []) =
      [if decide (lead < 0) then '-' else '+'] := by
    by_cases hlead : lead < 0 <;> simp [hlead, Layout.quoted]
  have htext : (Layout.quoted.scientific d lead).toList = c :: (fraction cs ++
      'e' :: (if decide (lead < 0) then '-' else '+') ::
        (padding ++ Nat.toDigits 10 lead.natAbs)) := by
    unfold Layout.scientific
    dsimp only
    rw [String.toList_ofList, hcs, hsign]
    cases cs <;> simp [fraction, hpadding]
  refine ⟨c, _, htext, hc, ?_⟩
  rw [List.foldlM_append, hread, Option.bind_eq_bind, Option.bind_some, hmark, hvalue, hn, hlength]
  congr 2
  ring

end FabricGauges.Json.Numeral

namespace FabricGauges

/-! ## The text of a double -/

theorem Decimal.digits_trimmed_ne_zero {d : Decimal} (hd : d.digits ≠ 0) (fuel : Nat) :
    (d.trimmed fuel).digits ≠ 0 := by
  induction fuel generalizing d with
  | zero => exact hd
  | succ fuel ih =>
    rw [trimmed]
    split
    · next h =>
      have hdvd : 10 ∣ d.digits := Nat.dvd_of_mod_eq_zero h.2
      exact ih (Nat.div_ne_zero_iff.2 ⟨by norm_num, Nat.le_of_dvd (Nat.pos_of_ne_zero hd) hdvd⟩)
    · exact hd

namespace Double

open Json (Numeral)

/-- Zero is written as zero. -/
theorem exponent_shortest_of_digits {x : Double} (h : x.shortest.digits = 0) :
    x.shortest.exponent = 0 := by
  unfold shortest at h ⊢
  split
  · rfl
  · next hzero =>
    rw [if_neg hzero] at h
    unfold Decimal.normal at h ⊢
    split
    · rfl
    · next hdigits =>
      rw [if_neg hdigits] at h
      exact absurd h (Decimal.digits_trimmed_ne_zero hdigits _)

/-- The decimal that the text of a double shows in a document. -/
def shown (x : Double) : Decimal :=
  Numeral.shown x.shortest <| x.shortest.digits = 0 ∨ Layout.quoted.isPositional
    (x.shortest.exponent + (decimalLength x.shortest.digits : Int) - 1)

/-- The double that is read where a double has been written. -/
def reread? (x : Double) : Option Double := ofScaled? x.negative x.shown.digits x.shown.exponent

/-- A word has room for the digits that the text of a double shows. -/
theorem digits_shown_le (x : Double) : x.shown.digits ≤ 10 ^ 17 := by
  unfold shown Numeral.shown
  split
  · next h =>
    obtain ⟨hpositional, hexp⟩ := h
    rw [decide_eq_true_eq] at hpositional
    show x.shortest.digits * 10 ^ (x.shortest.exponent.toNat + 1) ≤ _
    rcases hpositional with hzero | hpositional
    · rw [hzero, zero_mul]
      exact Nat.zero_le _
    · have hlead : x.shortest.exponent + (decimalLength x.shortest.digits : Int) - 1 ≤ 15 := by
        simpa [Layout.isPositional, Layout.quoted] using (Bool.and_eq_true_iff.1 hpositional).2
      calc x.shortest.digits * 10 ^ (x.shortest.exponent.toNat + 1)
          ≤ 10 ^ decimalLength x.shortest.digits * 10 ^ (x.shortest.exponent.toNat + 1) :=
            Nat.mul_le_mul_right _ (lt_pow_decimalLength _).le
        _ = 10 ^ (decimalLength x.shortest.digits + (x.shortest.exponent.toNat + 1)) :=
            (pow_add _ _ _).symm
        _ ≤ 10 ^ 17 := Nat.pow_le_pow_right (by norm_num) (by omega)
  · exact x.digits_shortest_le

/-- The text of a double is read as a literal that stands for the double that is read again. -/
theorem exists_readsAs (x : Double) : ∃ n : Numeral,
    Numeral.ReadsAs (Layout.quoted.magnitude x.shortest).toList x.negative n ∧
      n.isComplete = true ∧ n.integer? = none ∧ n.double? = x.reread? := by
  have hlt : x.shown.digits < UInt64.size := lt_of_le_of_lt x.digits_shown_le (by decide)
  have hvalue : (UInt64.ofNat x.shown.digits).toNat = x.shown.digits := UInt64.toNat_ofNat_of_lt' hlt
  unfold Layout.magnitude
  dsimp only
  -- without an exponent the digits may have been lengthened by zeros, with one they have not
  by_cases h : x.shortest.digits = 0 ∨ Layout.quoted.isPositional
    (x.shortest.exponent + (decimalLength x.shortest.digits : Int) - 1)
  · have hshown : x.shown = Numeral.shown x.shortest true := by
      unfold shown
      rw [decide_eq_true h]
    rw [if_pos h]
    rw [hshown] at hlt
    refine ⟨_, Numeral.readsAs_positional x.negative exponent_shortest_of_digits hlt, rfl, rfl, ?_⟩
    unfold Numeral.double? reread?
    rw [← hshown]
    dsimp only
    rw [hvalue]
    simp
  · have hshown : x.shown = x.shortest := by
      unfold shown
      rw [decide_eq_false h]
      rfl
    have hpos : 0 < x.shortest.digits := Nat.pos_of_ne_zero fun hzero => h (.inl hzero)
    rw [if_neg h]
    rw [hshown] at hlt hvalue
    refine ⟨_, Numeral.readsAs_scientific x.negative hpos hlt _, rfl, rfl, ?_⟩
    unfold Numeral.double? reread?
    dsimp only
    rw [hvalue, hshown]
    congr 1
    split
    · next hneg =>
      have hneg := of_decide_eq_true hneg
      omega
    · next hneg =>
      have hpos : ¬x.shortest.exponent + (decimalLength x.shortest.digits : Int) - 1 < 0 :=
        fun h => hneg (decide_eq_true h)
      omega

end Double

end FabricGauges
