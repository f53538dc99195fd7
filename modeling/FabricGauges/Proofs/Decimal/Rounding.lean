import FabricGauges.Decimal.Shortest
import Mathlib.Algebra.Order.Field.Power
import Mathlib.Data.Int.Log
import Mathlib.Data.Rat.Floor
import Mathlib.Tactic.Linarith
import Mathlib.Tactic.Positivity

/-!
# Rounding depends on the value

A quotient of natural numbers is rounded on the binary64 grid at its magnitude. The grid is that of
the binary logarithm of the quotient, and the rounding on it compares remainders, so a common factor
of numerator and denominator changes nothing. Hence a decimal rounds to the same double when zeros
are moved between its digits and its exponent, and a double, taken as a quotient, rounds to itself.
-/

namespace FabricGauges.Double

/-- A double has 53 significant bits. -/
theorem mantissa_lt (x : Double) : x.mantissa < 2 ^ 53 := x.canonical.1

theorem numerator_eq (x : Double) : x.numerator = x.mantissa * 2 ^ x.exponent.toNat := rfl

theorem denominator_eq (x : Double) : x.denominator = 2 ^ (-x.exponent).toNat := rfl

/-! ## The binary logarithm of a quotient -/

/-- A comparison with a power of two, written without fractions. -/
theorem zpow_le_div_iff {num den : Nat} (hden : 0 < den) (l : Int) :
    den * 2 ^ l.toNat ≤ num * 2 ^ (-l).toNat ↔ (2 : ℚ) ^ l ≤ (num : ℚ) / den := by
  have hden' : (0 : ℚ) < den := by exact_mod_cast hden
  rw [le_div_iff₀ hden']
  -- one of the two powers is that of zero, whichever sign the exponent has
  obtain ⟨n, rfl | rfl⟩ := l.eq_nat_or_neg
  · rw [Int.toNat_natCast, Int.toNat_neg_natCast, pow_zero, mul_one, zpow_natCast, mul_comm]
    exact_mod_cast Iff.rfl
  · rw [neg_neg, Int.toNat_natCast, Int.toNat_neg_natCast, pow_zero, mul_one, zpow_neg,
      zpow_natCast, inv_mul_le_iff₀ (by positivity), mul_comm num]
    exact_mod_cast Iff.rfl

/-- The binary logarithm is found from the powers of two around a number. -/
theorem log_eq_of_bounds {q : ℚ} {l : Int} (hlow : (2 : ℚ) ^ l ≤ q)
    (hhigh : q < (2 : ℚ) ^ (l + 1)) : Int.log 2 q = l := by
  have hq : 0 < q := lt_of_lt_of_le (by positivity) hlow
  have hle : l ≤ Int.log 2 q := by
    apply (Int.zpow_le_iff_le_log (by norm_num) hq).1
    exact_mod_cast hlow
  have hlt : Int.log 2 q < l + 1 := by
    apply (Int.lt_zpow_iff_log_lt (by norm_num) hq).1
    exact_mod_cast hhigh
  omega

/-- The leading binary digit stands at the logarithm. -/
theorem leadingBit_eq_log {num den : Nat} (hnum : 0 < num) (hden : 0 < den) :
    leadingBit num den = Int.log 2 ((num : ℚ) / den) := by
  have hden' : (0 : ℚ) < den := by exact_mod_cast hden
  -- the guess from the two logarithms is too large by one at most
  set guess : Int := (Nat.log2 num : Int) - Nat.log2 den with hguess
  have hnumLow : (2 : ℚ) ^ (Nat.log2 num : Int) ≤ num := by
    rw [zpow_natCast]
    exact_mod_cast Nat.log2_self_le hnum.ne'
  have hnumHigh : (num : ℚ) < 2 ^ ((Nat.log2 num : Int) + 1) := by
    have h := Nat.lt_log2_self (n := num)
    exact_mod_cast h
  have hdenLow : (2 : ℚ) ^ (Nat.log2 den : Int) ≤ den := by
    rw [zpow_natCast]
    exact_mod_cast Nat.log2_self_le hden.ne'
  have hdenHigh : (den : ℚ) < 2 ^ ((Nat.log2 den : Int) + 1) := by
    have h := Nat.lt_log2_self (n := den)
    exact_mod_cast h
  have hhigh : (num : ℚ) / den < 2 ^ (guess + 1) := by
    rw [div_lt_iff₀ hden']
    calc (num : ℚ) < 2 ^ ((Nat.log2 num : Int) + 1) := hnumHigh
      _ = 2 ^ (guess + 1) * 2 ^ (Nat.log2 den : Int) := by
        rw [← zpow_add₀ (by norm_num)]
        congr 1
        omega
      _ ≤ 2 ^ (guess + 1) * den := by
        apply mul_le_mul_of_nonneg_left hdenLow
        positivity
  have hlow : (2 : ℚ) ^ (guess - 1) ≤ (num : ℚ) / den := by
    rw [le_div_iff₀ hden']
    calc (2 : ℚ) ^ (guess - 1) * den ≤ 2 ^ (guess - 1) * 2 ^ ((Nat.log2 den : Int) + 1) := by
          apply mul_le_mul_of_nonneg_left hdenHigh.le
          positivity
      _ = 2 ^ (Nat.log2 num : Int) := by
        rw [← zpow_add₀ (by norm_num)]
        congr 1
        omega
      _ ≤ num := hnumLow
  unfold leadingBit
  dsimp only
  rw [← hguess]
  -- the comparison tells which of the two it is
  split
  · next h => exact (log_eq_of_bounds ((zpow_le_div_iff hden guess).1 h) hhigh).symm
  · next h =>
    have hlt : (num : ℚ) / den < 2 ^ (guess - 1 + 1) := by
      rw [sub_add_cancel]
      exact lt_of_not_ge fun hge => h ((zpow_le_div_iff hden guess).2 hge)
    exact (log_eq_of_bounds hlow hlt).symm

/-! ## Common factors -/

/-- The grid of a fraction does not depend on how it is cancelled. -/
theorem gridExponent_mul {num den k : Nat} (hnum : 0 < num) (hden : 0 < den) (hk : 0 < k) :
    gridExponent (num * k) (den * k) = gridExponent num den := by
  have hk' : (k : ℚ) ≠ 0 := by exact_mod_cast hk.ne'
  unfold gridExponent
  rw [leadingBit_eq_log (Nat.mul_pos hnum hk) (Nat.mul_pos hden hk), leadingBit_eq_log hnum hden]
  push_cast
  rw [mul_div_mul_right _ _ hk']

/-- Rounded division does not depend on how the fraction is cancelled. -/
theorem divRound_mul (a b : Nat) {k : Nat} (hk : 0 < k) :
    divRound (a * k) (b * k) = divRound a b := by
  have hlt : ∀ x y : Nat, x * k < y * k ↔ x < y := fun x y => Nat.mul_lt_mul_right hk
  unfold divRound
  dsimp only
  rw [Nat.mul_div_mul_right _ _ hk, Nat.mul_mod_mul_right, ← mul_assoc]
  simp only [hlt]

/-- The double of a fraction does not depend on how it is cancelled. -/
theorem ofQuotient?_mul (negative : Bool) (num : Nat) {den k : Nat} (hden : 0 < den)
    (hk : 0 < k) : ofQuotient? negative (num * k) (den * k) = ofQuotient? negative num den := by
  rcases Nat.eq_zero_or_pos num with rfl | hnum
  · rw [Nat.zero_mul]
    rfl
  · have hnum' : ¬num * k = 0 := (Nat.mul_pos hnum hk).ne'
    unfold ofQuotient?
    rw [if_neg hnum', if_neg hnum.ne', gridExponent_mul hnum hden hk]
    -- the factor stands before the power of the grid, which is in the way of `divRound_mul`
    have hround : ∀ i j : Nat,
        divRound (num * k * i) (den * k * j) = divRound (num * i) (den * j) := by
      intro i j
      rw [mul_right_comm num, mul_right_comm den, divRound_mul _ _ hk]
    simp only [hround]

/-! ## Decimals -/

theorem pow_decimalLength {n k : Nat} : decimalLength n ≤ k + 1 ↔ n < 10 ^ (k + 1) :=
  Nat.length_toDigits_le_iff (by norm_num) (Nat.succ_pos k)

theorem decimalLength_pos (n : Nat) : 0 < decimalLength n := Nat.length_toDigits_pos

/-- Ten times a number has one more digit. -/
theorem decimalLength_mul_ten {n : Nat} (hn : 0 < n) :
    decimalLength (n * 10) = decimalLength n + 1 := by
  have hten := decimalLength_pos (n * 10)
  have h : ∀ k, decimalLength (n * 10) ≤ k + 2 ↔ decimalLength n ≤ k + 1 := by
    intro k
    rw [pow_decimalLength, pow_decimalLength, pow_succ 10 (k + 1)]
    exact Nat.mul_lt_mul_right (by norm_num)
  have hpos := decimalLength_pos n
  have hgt : ¬decimalLength (n * 10) ≤ 1 := by
    intro hle
    have := (pow_decimalLength (k := 0)).1 hle
    omega
  have h₁ := (h (decimalLength n - 1)).2 (by omega)
  have h₂ := (h (decimalLength (n * 10) - 2)).1 (by omega)
  omega

/-- A zero may move from the exponent of a decimal to its digits. -/
theorem ofDecimal?_mul_ten (negative : Bool) (digits : Nat) (exponent : Int) :
    ofDecimal? negative (digits * 10) (exponent - 1) = ofDecimal? negative digits exponent := by
  unfold ofDecimal?
  rcases Nat.eq_zero_or_pos digits with rfl | hpos
  · rfl
  have hten : ¬digits * 10 = 0 := (Nat.mul_pos hpos (by norm_num)).ne'
  rw [if_neg hten, if_neg hpos.ne', decimalLength_mul_ten hpos]
  -- the leading digit stays where it is, so the range is judged as before
  have htop : ((decimalLength digits + 1 : Nat) : Int) + (exponent - 1) =
      (decimalLength digits : Int) + exponent := by
    push_cast
    ring
  rw [htop]
  have hquotient : ofQuotient? negative (digits * 10 * 10 ^ (exponent - 1).toNat)
      (10 ^ (-(exponent - 1)).toNat) =
      ofQuotient? negative (digits * 10 ^ exponent.toNat) (10 ^ (-exponent).toNat) := by
    rcases le_or_gt exponent 0 with hneg | hexp
    · have h₁ : (exponent - 1).toNat = 0 := by omega
      have h₂ : exponent.toNat = 0 := by omega
      have h₃ : (-(exponent - 1)).toNat = (-exponent).toNat + 1 := by omega
      rw [h₁, h₂, h₃, pow_zero, mul_one, mul_one, pow_succ]
      exact ofQuotient?_mul negative digits (by positivity) (by norm_num)
    · have h₁ : (-(exponent - 1)).toNat = 0 := by omega
      have h₂ : (-exponent).toNat = 0 := by omega
      have h₃ : exponent.toNat = (exponent - 1).toNat + 1 := by omega
      rw [h₁, h₂, h₃, mul_assoc, ← pow_succ']
  simp only [Nat.pow_eq, hquotient]

/-- Any number of zeros may move from the exponent of a decimal to its digits. -/
theorem ofDecimal?_mul_pow (negative : Bool) (digits : Nat) (exponent : Int) (n : Nat) :
    ofDecimal? negative (digits * 10 ^ n) (exponent - n) =
      ofDecimal? negative digits exponent := by
  induction n with
  | zero => rw [pow_zero, mul_one, Nat.cast_zero, sub_zero]
  | succ n ih =>
    rw [pow_succ, ← mul_assoc, ← ih, ← ofDecimal?_mul_ten negative (digits * 10 ^ n)]
    congr 1
    push_cast
    ring

/-! ## Doubles -/

/-- A double that is not zero lies on the grid of its own exponent. -/
theorem gridExponent_self (x : Double) (hx : x.mantissa ≠ 0) :
    gridExponent x.numerator x.denominator = x.exponent := by
  obtain ⟨negative, m, e, hbits, hleast, hgreatest, hnormal⟩ := x
  replace hx : m ≠ 0 := hx
  have hm : (0 : ℚ) < m := by exact_mod_cast Nat.pos_of_ne_zero hx
  have hquotient : ((m * 2 ^ e.toNat : Nat) : ℚ) / (2 ^ (-e).toNat : Nat) = m * 2 ^ e := by
    push_cast
    obtain ⟨n, rfl | rfl⟩ := e.eq_nat_or_neg
    · rw [Int.toNat_natCast, Int.toNat_neg_natCast, pow_zero, div_one, zpow_natCast]
    · rw [neg_neg, Int.toNat_natCast, Int.toNat_neg_natCast, pow_zero, mul_one, zpow_neg,
        zpow_natCast, div_eq_mul_inv]
  unfold gridExponent
  rw [numerator_eq, denominator_eq]
  dsimp only
  rw [leadingBit_eq_log (by positivity) (by positivity), hquotient]
  have hhigh : (m : ℚ) * 2 ^ e < 2 ^ (53 + e) := by
    rw [zpow_add₀ (by norm_num)]
    apply mul_lt_mul_of_pos_right _ (by positivity)
    exact_mod_cast hbits
  have hlt : Int.log 2 ((m : ℚ) * 2 ^ e) < 53 + e :=
    (Int.lt_zpow_iff_log_lt (by norm_num) (by positivity)).1 (by exact_mod_cast hhigh)
  -- a mantissa of full length fixes the logarithm; a shorter one is on the least grid
  rcases hnormal with hnormal | rfl
  · have hlow : (2 : ℚ) ^ (52 + e) ≤ m * 2 ^ e := by
      rw [zpow_add₀ (by norm_num)]
      apply mul_le_mul_of_nonneg_right _ (by positivity)
      exact_mod_cast hnormal
    have hle : 52 + e ≤ Int.log 2 ((m : ℚ) * 2 ^ e) :=
      (Int.zpow_le_iff_le_log (by norm_num) (by positivity)).1 (by exact_mod_cast hlow)
    omega
  · omega

/-- A double rounds to itself. -/
theorem ofQuotient?_self (x : Double) (hx : x.mantissa ≠ 0) :
    ofQuotient? x.negative x.numerator x.denominator = some x := by
  have hnum : ¬x.numerator = 0 := by
    rw [numerator_eq]
    positivity
  unfold ofQuotient?
  rw [if_neg hnum, gridExponent_self x hx]
  -- on its own grid the quotient is the mantissa, so nothing is rounded
  have hround : divRound (x.numerator * 2 ^ (-x.exponent).toNat)
      (x.denominator * 2 ^ x.exponent.toNat) = x.mantissa := by
    have hone : divRound x.mantissa 1 = x.mantissa := by
      unfold divRound
      rw [Nat.div_one, Nat.mod_one]
      rfl
    rw [← divRound_mul x.mantissa 1 (k := 2 ^ x.exponent.toNat * 2 ^ (-x.exponent).toNat)
      (by positivity)] at hone
    rw [← hone]
    congr 1
    · rw [numerator_eq]
      ring
    · rw [denominator_eq]
      ring
  have hbits : ¬x.mantissa = 2 ^ 53 := x.mantissa_lt.ne
  simp only [Nat.pow_eq, hround, if_neg hbits]
  exact dif_pos x.canonical

end FabricGauges.Double
