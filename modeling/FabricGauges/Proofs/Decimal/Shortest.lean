import FabricGauges.Proofs.Decimal.Rounding

/-!
# The shortest digits read back

Whatever candidate is taken for a double, it reads back: the ones on the decimal grids are taken
only if they do, and the exact expansion always does. What is left is to see that its exponent is in
the range that is looked at, and that trimming changes no value.
-/

namespace FabricGauges

/-! ## Trimming -/

theorem Decimal.ofDecimal?_trimmed (negative : Bool) (d : Decimal) (fuel : Nat) :
    Double.ofDecimal? negative (d.trimmed fuel).digits (d.trimmed fuel).exponent =
      Double.ofDecimal? negative d.digits d.exponent := by
  induction fuel generalizing d with
  | zero => rfl
  | succ fuel ih =>
    rw [trimmed]
    split
    · next h =>
      have hdvd : 10 ∣ d.digits := Nat.dvd_of_mod_eq_zero h.2
      have hdigits : d.digits / 10 * 10 = d.digits := Nat.div_mul_cancel hdvd
      have hten := Double.ofDecimal?_mul_ten negative (d.digits / 10) (d.exponent + 1)
      rw [hdigits, add_sub_cancel_right] at hten
      rw [ih, hten]
    · rfl

/-- The normal form of a decimal has the same double. -/
theorem Decimal.ofDecimal?_normal (negative : Bool) (d : Decimal) :
    Double.ofDecimal? negative d.normal.digits d.normal.exponent =
      Double.ofDecimal? negative d.digits d.exponent := by
  unfold normal
  split
  · next h =>
    rw [h]
    rfl
  · exact ofDecimal?_trimmed negative d _

namespace Double

/-! ## The exact expansion -/

theorem numerator_lt (x : Double) : x.numerator < 10 ^ 310 := by
  have hpow : (2 : Nat) ^ x.exponent.toNat ≤ 2 ^ 971 := by
    apply Nat.pow_le_pow_right (by norm_num)
    have := x.canonical.2.2.1
    omega
  rw [numerator_eq]
  calc x.mantissa * 2 ^ x.exponent.toNat < 2 ^ 53 * 2 ^ x.exponent.toNat :=
        Nat.mul_lt_mul_of_pos_right x.mantissa_lt (by positivity)
    _ ≤ 2 ^ 53 * 2 ^ 971 := Nat.mul_le_mul_left _ hpow
    _ ≤ 10 ^ 310 := by decide +kernel

/-- The digits of the expansion are few enough for a finite number. -/
theorem decimalLength_expansion_le (x : Double) (k : Nat) :
    decimalLength (x.numerator * 5 ^ k) ≤ 310 + k := by
  have hlt : x.numerator * 5 ^ k < 10 ^ (309 + k + 1) := by
    calc x.numerator * 5 ^ k < 10 ^ 310 * 5 ^ k :=
          Nat.mul_lt_mul_of_pos_right x.numerator_lt (by positivity)
      _ ≤ 10 ^ 310 * 10 ^ k := Nat.mul_le_mul_left _ (Nat.pow_le_pow_left (by norm_num) k)
      _ = 10 ^ (309 + k + 1) := by rw [← pow_add]; congr 1; omega
  have hle := pow_decimalLength.2 hlt
  omega

/-- The digits of the expansion are many enough for a number above the least one. -/
theorem le_decimalLength_expansion (x : Double) (hx : x.mantissa ≠ 0) {k : Nat} (hk : k ≤ 1074) :
    k ≤ decimalLength (x.numerator * 5 ^ k) + 330 := by
  by_contra hgt
  obtain ⟨j, rfl⟩ : ∃ j, k = j + 331 := ⟨k - 331, by omega⟩
  have hlt : x.numerator * 5 ^ (j + 331) < 10 ^ (j + 1) := pow_decimalLength.1 (by omega)
  have hpos : 1 ≤ x.numerator := by
    rw [numerator_eq]
    exact Nat.mul_pos (Nat.pos_of_ne_zero hx) (by positivity)
  -- a tenth of a power of two is small against a power of five, far below the least double
  have hpow : 10 ^ (j + 1) ≤ 5 ^ (j + 331) := by
    calc 10 ^ (j + 1) = 2 ^ (j + 1) * 5 ^ (j + 1) := by rw [← Nat.mul_pow]
      _ ≤ 2 ^ 744 * 5 ^ (j + 1) :=
        Nat.mul_le_mul_right _ (Nat.pow_le_pow_right (by norm_num) (by omega))
      _ ≤ 5 ^ 330 * 5 ^ (j + 1) := by
        apply Nat.mul_le_mul_right
        decide +kernel
      _ = 5 ^ (j + 331) := by rw [← pow_add]; congr 1; omega
  have hle : 5 ^ (j + 331) ≤ x.numerator * 5 ^ (j + 331) := Nat.le_mul_of_pos_left _ hpos
  omega

/-- The exact expansion of a double reads back. -/
theorem readsBack_expansion (x : Double) (hx : x.mantissa ≠ 0) : x.readsBack x.expansion := by
  unfold readsBack expansion
  rw [beq_iff_eq]
  set k := (-x.exponent).toNat with hk
  have hleast := x.canonical.2.1
  have hdigits : ¬x.numerator * 5 ^ k = 0 := by
    rw [numerator_eq]
    positivity
  have hhigh := decimalLength_expansion_le x k
  have hlow := le_decimalLength_expansion x hx (k := k) (by omega)
  unfold ofDecimal?
  simp only [Nat.pow_eq]
  rw [if_neg hdigits, if_neg (by omega), if_neg (by omega), neg_neg, Int.toNat_natCast,
    Int.toNat_neg_natCast, pow_zero, mul_one]
  -- a power of ten in the denominator is one of two, which belongs there, and one of five
  have hten : (10 : Nat) ^ k = x.denominator * 5 ^ k := by
    rw [denominator_eq]
    rw [← hk, ← Nat.mul_pow]
  rw [hten, ofQuotient?_mul x.negative x.numerator (by rw [denominator_eq]; positivity)
    (by positivity)]
  exact ofQuotient?_self x hx

/-! ## The shortest digits -/

/-- The shortest digits of a double read back. -/
theorem ofDecimal?_shortest (x : Double) :
    ofDecimal? x.negative x.shortest.digits x.shortest.exponent = some x := by
  unfold shortest
  split
  · next hzero =>
    obtain ⟨negative, m, e, hcanonical⟩ := x
    obtain rfl : m = 0 := by simpa [isZero] using hzero
    obtain rfl : e = -1074 := by
      rcases hcanonical.2.2.2 with h | h
      · norm_num at h
      · exact h
    rfl
  · next hzero =>
    have hx : x.mantissa ≠ 0 := by simpa [isZero] using hzero
    rw [Decimal.ofDecimal?_normal]
    have hreads : ∀ d, x.readsBack d → ofDecimal? x.negative d.digits d.exponent = some x :=
      fun d hd => beq_iff_eq.1 hd
    -- the candidate that is taken has been tried; the expansion needs no trial
    apply hreads
    cases hfound : x.candidates.find? x.readsBack with
    | some d => exact List.find?_some hfound
    | none => exact readsBack_expansion x hx

end Double

end FabricGauges
