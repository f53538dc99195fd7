import FabricGauges.Decimal.Layout
import FabricGauges.Proofs.Decimal.Shortest
import FabricGauges.Proofs.Exposition.Grammar

/-!
# Numbers read back

Whatever the layout, the text of a double is a sign, digits, a point with more digits and perhaps an
exponent, and it is read as that double. The reader takes all digits as one number and counts the
places after the point into the exponent, so each form of the text gives back the digits of the
double, but for zeros that have been moved there from the exponent.
-/

namespace FabricGauges.OpenMetrics

/-! ## Digits -/

/-- All characters of a text are digits. -/
def Digits (s : List Char) : Prop := ∀ c ∈ s, c.isDigit

/-- A text goes on with neither a digit nor a point. -/
def Stops (s : List Char) : Prop := ∀ c, s.head? = some c → ¬c.isDigit ∧ c ≠ '.'

/-- The digits of a number are digits. -/
theorem digits_toDigits (n : Nat) : Digits (Nat.toDigits 10 n) :=
  fun _ hc => Nat.isDigit_of_mem_toDigits (by decide) (by decide) hc

theorem digits_replicate_zero (n : Nat) : Digits (List.replicate n '0') := by
  intro c hc
  rw [List.eq_of_mem_replicate hc]
  decide

theorem Digits.append {s s' : List Char} (h : Digits s) (h' : Digits s') : Digits (s ++ s') :=
  List.forall_mem_append.2 ⟨h, h'⟩

theorem Digits.take {s : List Char} (h : Digits s) (n : Nat) : Digits (s.take n) :=
  fun c hc => h c (List.mem_of_mem_take hc)

theorem Digits.drop {s : List Char} (h : Digits s) (n : Nat) : Digits (s.drop n) :=
  fun c hc => h c (List.mem_of_mem_drop hc)

theorem stops_cons {c : Char} (hc : ¬c.isDigit ∧ c ≠ '.') (s : List Char) : Stops (c :: s) := by
  intro d hd
  obtain rfl := Option.some.inj hd
  exact hc

/-- Digits are read up to the first other character. -/
theorem readDigits_append {ds s : List Char} (hds : Digits ds)
    (hs : ∀ c, s.head? = some c → ¬c.isDigit) : readDigits (ds ++ s) = (ds, s) := by
  have hrest : s.takeWhile Char.isDigit = [] ∧ s.dropWhile Char.isDigit = s := by
    cases s with
    | nil => exact ⟨rfl, rfl⟩
    | cons c s =>
      have hc : ¬c.isDigit := hs c rfl
      exact ⟨List.takeWhile_cons_of_neg hc, List.dropWhile_cons_of_neg hc⟩
  unfold readDigits
  rw [List.takeWhile_append_of_pos hds, List.dropWhile_append_of_pos hds, hrest.1, hrest.2,
    List.append_nil]

/-! ## Forms of a number -/

/-- The text of a sign that is written when it is a minus. -/
def signText (negative : Bool) : List Char := if negative then ['-'] else []

/-- The text of the places after the point. -/
def fractionText : List Char → List Char
  | [] => []
  | ds => '.' :: ds

/-- Digits behind the point make a fraction. -/
theorem fractionText_of_ne_nil {ds : List Char} (hne : ds ≠ []) : fractionText ds = '.' :: ds := by
  cases ds with
  | nil => exact absurd rfl hne
  | cons d ds => rfl

/-- The sign before digits is read back. -/
theorem readSign_digits (negative : Bool) {ds : List Char} (hds : Digits ds) (hne : ds ≠ [])
    (s : List Char) : readSign (signText negative ++ (ds ++ s)) = (negative, ds ++ s) := by
  cases negative with
  | true => rfl
  | false =>
    cases ds with
    | nil => exact absurd rfl hne
    | cons c ds =>
      have hc := hds c List.mem_cons_self
      show readSign (c :: (ds ++ s)) = (false, c :: (ds ++ s))
      unfold readSign
      split
      · next h =>
        obtain rfl := (List.cons.inj h).1
        exact absurd hc (by decide)
      · next h =>
        obtain rfl := (List.cons.inj h).1
        exact absurd hc (by decide)
      · rfl

/-- The digits before a fraction end with it. -/
theorem stops_of_fraction {s : List Char} (hs : Stops s) (ds : List Char) :
    ∀ c, (fractionText ds ++ s).head? = some c → ¬c.isDigit := by
  cases ds with
  | nil => exact fun c hc => (hs c hc).1
  | cons d ds =>
    intro c hc
    obtain rfl := Option.some.inj hc
    decide

/-- The fraction is read back, up to where its digits stop. -/
theorem readFraction_fractionText {ds s : List Char} (hds : Digits ds) (hs : Stops s) :
    readFraction (fractionText ds ++ s) = (ds, s) := by
  cases ds with
  | nil =>
    show readFraction s = ([], s)
    unfold readFraction
    split
    · exact absurd rfl (hs '.' rfl).2
    · rfl
  | cons d ds => exact readDigits_append hds fun c hc => (hs c hc).1

/-- The digits of a number are taken together, and the places after the point are counted. -/
theorem readNumber_append (negative : Bool) {whole fraction s rest : List Char} {exponent : Int}
    (hwhole : Digits whole) (hne : whole ≠ []) (hfraction : Digits fraction) (hs : Stops s)
    (hexponent : readExponent s = some (exponent, rest)) {digits : Nat}
    (hdigits : Nat.ofDigitChars 10 (whole ++ fraction) 0 = digits) :
    readNumber (signText negative ++ (whole ++ (fractionText fraction ++ s))) =
      (Double.ofDecimal? negative digits (exponent - fraction.length)).map (·, rest) := by
  unfold readNumber
  rw [readSign_digits negative hwhole hne]
  dsimp only
  rw [readDigits_append hwhole (stops_of_fraction hs fraction)]
  dsimp only
  rw [readFraction_fractionText hfraction hs]
  dsimp only
  -- there are digits, so the number is not refused
  rw [if_neg fun h => hne h.1, hexponent, hdigits]
  dsimp only [Option.bind_eq_bind, Option.bind_some, pure, Option.pure_def]
  cases Double.ofDecimal? negative digits (exponent - fraction.length) with
  | none => rfl
  | some x => rfl

/-- No exponent is read where a line ends. -/
theorem readExponent_line (s : List Char) : readExponent ('\n' :: s) = some (0, '\n' :: s) := rfl

/-- An exponent begins with a mark and perhaps a sign. -/
theorem readExponent_mark (s : List Char) :
    readExponent ('e' :: s) =
      let sign := readSign s
      let digits := readDigits sign.2
      let size : Int := Nat.ofDigitChars 10 digits.1 0
      if digits.1 = [] then none else some (if sign.1 then -size else size, digits.2) := rfl

/-- The exponent that a layout writes is read. -/
theorem readExponent_text (lead : Int) (plus : Bool) (padding : Nat) (s : List Char) :
    readExponent ('e' :: ((if lead < 0 then ['-'] else if plus then ['+'] else []) ++
      (List.replicate padding '0' ++ (Nat.toDigits 10 lead.natAbs ++ '\n' :: s)))) =
      some (lead, '\n' :: s) := by
  have hds : Digits (List.replicate padding '0' ++ Nat.toDigits 10 lead.natAbs) :=
    (digits_replicate_zero padding).append (digits_toDigits lead.natAbs)
  have hne : List.replicate padding '0' ++ Nat.toDigits 10 lead.natAbs ≠ [] :=
    List.append_ne_nil_of_right_ne_nil _ Nat.toDigits_ne_nil
  have hvalue : Nat.ofDigitChars 10 (List.replicate padding '0' ++ Nat.toDigits 10 lead.natAbs) 0 =
      lead.natAbs := by
    rw [Nat.ofDigitChars_append, Nat.ofDigitChars_replicate_zero, Nat.mul_zero,
      Nat.ofDigitChars_ten_toDigits]
  have hline : ∀ c, ('\n' :: s).head? = some c → ¬c.isDigit :=
    fun c hc => (stops_cons (by decide) s c hc).1
  rw [← List.append_assoc (List.replicate _ _)]
  generalize List.replicate padding '0' ++ Nat.toDigits 10 lead.natAbs = ds at hds hne hvalue
  -- with a sign or without one, the sign that is read is that of the exponent
  have hsign : readSign ((if lead < 0 then ['-'] else if plus then ['+'] else []) ++
      (ds ++ '\n' :: s)) = (decide (lead < 0), ds ++ '\n' :: s) := by
    by_cases hlead : lead < 0
    · rw [if_pos hlead, decide_eq_true hlead]
      rfl
    · rw [if_neg hlead, decide_eq_false hlead]
      cases plus with
      | true => rfl
      | false => exact readSign_digits false hds hne _
  rw [readExponent_mark, hsign]
  dsimp only
  rw [readDigits_append hds hline]
  dsimp only
  rw [if_neg hne, hvalue]
  by_cases hlead : lead < 0
  · rw [decide_eq_true hlead, if_pos rfl, show -(lead.natAbs : Int) = lead by omega]
  · rw [decide_eq_false hlead, if_neg Bool.false_ne_true, show (lead.natAbs : Int) = lead by omega]

/-! ## Layouts -/

/-- Digits that are cut in two make the number they are the digits of. -/
theorem ofDigitChars_take_drop (n digits : Nat) :
    Nat.ofDigitChars 10 ((Nat.toDigits 10 digits).take n ++ (Nat.toDigits 10 digits).drop n) 0 =
      digits := by
  rw [List.take_append_drop, Nat.ofDigitChars_ten_toDigits]

/-- A decimal that is written positionally is read. -/
theorem readNumber_positional (negative : Bool) (d : Decimal) (s : List Char) :
    readNumber (signText negative ++ ((Layout.positional d).toList ++ '\n' :: s)) =
      (Double.ofDecimal? negative d.digits d.exponent).map (·, '\n' :: s) := by
  have hds : Digits (Nat.toDigits 10 d.digits) := digits_toDigits d.digits
  have hne : Nat.toDigits 10 d.digits ≠ [] := Nat.toDigits_ne_nil
  have hline : Stops ('\n' :: s) := stops_cons (by decide) s
  unfold Layout.positional
  dsimp only
  split
  · next hplaces =>
    -- the exponent has become zeros, one of them behind the point
    have hwhole : Digits (Nat.toDigits 10 d.digits ++ List.replicate d.exponent.toNat '0') :=
      hds.append (digits_replicate_zero _)
    have hdigits : Nat.ofDigitChars 10 ((Nat.toDigits 10 d.digits ++
        List.replicate d.exponent.toNat '0') ++ ['0']) 0 =
        d.digits * 10 ^ (d.exponent.toNat + 1) := by
      rw [List.append_assoc, ← List.replicate_succ', Nat.ofDigitChars_append,
        Nat.ofDigitChars_replicate_zero, Nat.ofDigitChars_ten_toDigits, Nat.mul_comm]
    have hexponent : (0 : Int) - (['0'] : List Char).length =
        d.exponent - ((d.exponent.toNat + 1 : Nat) : Int) := by
      show (0 : Int) - 1 = _
      omega
    have h := readNumber_append negative hwhole
      (List.append_ne_nil_of_left_ne_nil hne _) (digits_replicate_zero 1) hline
      (readExponent_line s) hdigits
    rw [String.toList_ofList, List.append_assoc _ ['.', '0']]
    rw [show (List.replicate 1 '0') = ['0'] from rfl, hexponent, Double.ofDecimal?_mul_pow] at h
    exact h
  · next hplaces =>
    split
    · next hlt =>
      -- the point stands among the digits
      have hwhole : (Nat.toDigits 10 d.digits).take
          ((Nat.toDigits 10 d.digits).length - (-d.exponent).toNat) ≠ [] := by
        rw [Ne, List.take_eq_nil_iff]
        push Not
        exact ⟨by omega, hne⟩
      have hfraction : (Nat.toDigits 10 d.digits).drop
          ((Nat.toDigits 10 d.digits).length - (-d.exponent).toNat) ≠ [] := by
        rw [Ne, List.drop_eq_nil_iff]
        omega
      have hlength : ((Nat.toDigits 10 d.digits).drop
          ((Nat.toDigits 10 d.digits).length - (-d.exponent).toNat)).length =
          (-d.exponent).toNat := by
        rw [List.length_drop]
        omega
      have h := readNumber_append negative (hds.take _) hwhole (hds.drop _) hline
        (readExponent_line s) (ofDigitChars_take_drop _ d.digits)
      rw [hlength, show (0 : Int) - ((-d.exponent).toNat : Int) = d.exponent by omega,
        fractionText_of_ne_nil hfraction] at h
      rw [String.toList_ofList, List.append_assoc]
      exact h
    · next hle =>
      -- zeros fill the places between the point and the digits
      have hfraction : Digits (List.replicate ((-d.exponent).toNat -
          (Nat.toDigits 10 d.digits).length) '0' ++ Nat.toDigits 10 d.digits) :=
        (digits_replicate_zero _).append hds
      have hlength : (List.replicate ((-d.exponent).toNat -
          (Nat.toDigits 10 d.digits).length) '0' ++ Nat.toDigits 10 d.digits).length =
          (-d.exponent).toNat := by
        rw [List.length_append, List.length_replicate]
        omega
      have hdigits : Nat.ofDigitChars 10 (['0'] ++ (List.replicate ((-d.exponent).toNat -
          (Nat.toDigits 10 d.digits).length) '0' ++ Nat.toDigits 10 d.digits)) 0 = d.digits := by
        rw [← List.append_assoc, ← List.replicate_one, List.replicate_append_replicate,
          Nat.ofDigitChars_append, Nat.ofDigitChars_replicate_zero, Nat.mul_zero,
          Nat.ofDigitChars_ten_toDigits]
      have h := readNumber_append negative (digits_replicate_zero 1)
        (List.cons_ne_nil _ _) hfraction hline (readExponent_line s) hdigits
      rw [hlength, show (0 : Int) - ((-d.exponent).toNat : Int) = d.exponent by omega,
        fractionText_of_ne_nil (List.append_ne_nil_of_right_ne_nil _ hne)] at h
      rw [String.toList_ofList]
      exact h

/-- A decimal that is written with an exponent is read. -/
theorem readNumber_scientific (l : Layout) (negative : Bool) (d : Decimal) (s : List Char) :
    readNumber (signText negative ++ ((l.scientific d
      (d.exponent + (Double.decimalLength d.digits : Int) - 1)).toList ++ '\n' :: s)) =
      (Double.ofDecimal? negative d.digits d.exponent).map (·, '\n' :: s) := by
  have hds : Digits (Nat.toDigits 10 d.digits) := digits_toDigits d.digits
  have hne : Nat.toDigits 10 d.digits ≠ [] := Nat.toDigits_ne_nil
  have hwhole : (Nat.toDigits 10 d.digits).take 1 ≠ [] := by
    rw [Ne, List.take_eq_nil_iff]
    push Not
    exact ⟨by decide, hne⟩
  -- the digits after the first one are what the leading exponent counts too much
  have hlength : (((Nat.toDigits 10 d.digits).drop 1).length : Int) =
      (Double.decimalLength d.digits : Int) - 1 := by
    have hpos := List.length_pos_iff.2 hne
    rw [List.length_drop]
    unfold Double.decimalLength
    omega
  generalize hlead : d.exponent + (Double.decimalLength d.digits : Int) - 1 = lead
  have h := readNumber_append negative (hds.take 1) hwhole (hds.drop 1)
    (stops_cons (by decide) _) (readExponent_text lead l.plusSign
      (l.exponentWidth - (Nat.toDigits 10 lead.natAbs).length) s)
    (ofDigitChars_take_drop 1 d.digits)
  rw [show lead - (((Nat.toDigits 10 d.digits).drop 1).length : Int) = d.exponent by omega] at h
  rw [← h]
  unfold Layout.scientific
  rw [String.toList_ofList]
  simp only [List.append_assoc, List.cons_append]
  rfl

/-- Every text of a double is read as that double. -/
theorem readNumber_render (l : Layout) (x : Double) (s : List Char) :
    readNumber ((l.render x).toList ++ '\n' :: s) = some (x, '\n' :: s) := by
  have hsign : (if x.negative then "-" else "").toList = signText x.negative := by
    cases x.negative <;> rfl
  have hread : readNumber (signText x.negative ++ ((l.magnitude x.shortest).toList ++ '\n' :: s)) =
      (Double.ofDecimal? x.negative x.shortest.digits x.shortest.exponent).map
        (·, '\n' :: s) := by
    unfold Layout.magnitude
    dsimp only
    split
    · exact readNumber_positional _ _ s
    · exact readNumber_scientific l _ _ s
  unfold Layout.render
  rw [String.toList_append, hsign, List.append_assoc, hread, Double.ofDecimal?_shortest]
  rfl

end FabricGauges.OpenMetrics
