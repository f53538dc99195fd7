import FabricGauges.Proofs.Decimal.Shortest
import Mathlib.Tactic.FieldSimp
import Mathlib.Tactic.NormNum
import Mathlib.Tactic.Ring

/-!
# Seventeen digits are enough

A quotient that differs from a double by less than the 54th binary place of its magnitude is rounded
to it, also where the double is a power of two and the grid below it is finer. The nearer neighbour
on a decimal grid of seventeen significant digits is that close. So the shortest digits of a double
are seventeen at most, and the exact expansion is never needed.
-/

namespace FabricGauges

theorem Decimal.digits_trimmed_le (d : Decimal) (fuel : Nat) :
    (d.trimmed fuel).digits ≤ d.digits := by
  induction fuel generalizing d with
  | zero => exact le_rfl
  | succ fuel ih =>
    rw [trimmed]
    split
    · exact (ih _).trans (Nat.div_le_self _ _)
    · exact le_rfl

/-- The normal form of a decimal has no more digits. -/
theorem Decimal.digits_normal_le (d : Decimal) : d.normal.digits ≤ d.digits := by
  unfold normal
  split
  · exact Nat.zero_le _
  · exact d.digits_trimmed_le _

namespace Double

/-- The magnitude of a double. -/
def value (x : Double) : ℚ := x.mantissa * 2 ^ x.exponent

/-- A quotient counted in steps of a grid. -/
theorem div_grid (base num den : Nat) (g : Int) :
    ((num * base ^ (-g).toNat : Nat) : ℚ) / (den * base ^ g.toNat : Nat) =
      num / den / (base : ℚ) ^ g := by
  obtain ⟨n, rfl | rfl⟩ := g.eq_nat_or_neg
  · rw [Int.toNat_natCast, Int.toNat_neg_natCast, pow_zero, mul_one, zpow_natCast]
    push_cast
    rw [div_div]
  · rw [neg_neg, Int.toNat_natCast, Int.toNat_neg_natCast, pow_zero, mul_one, zpow_neg,
      zpow_natCast]
    push_cast
    rw [div_inv_eq_mul, div_mul_eq_mul_div]

/-- A number scaled by a power is a quotient. -/
theorem quotient_eq_mul (base n : Nat) (g : Int) :
    ((n * base ^ g.toNat : Nat) : ℚ) / (base ^ (-g).toNat : Nat) = n * (base : ℚ) ^ g := by
  have h := div_grid base n 1 (-g)
  rwa [neg_neg, one_mul, Nat.cast_one, div_one, zpow_neg, div_inv_eq_mul] at h

/-- The value of a double is its numerator over its denominator. -/
theorem quotient_eq_value (x : Double) : (x.numerator : ℚ) / x.denominator = x.value := by
  rw [numerator_eq, denominator_eq, quotient_eq_mul, Nat.cast_ofNat, value]

/-! ## What rounds to a double -/

/-- A quotient that is nearer to a natural number than one half is rounded to it. -/
theorem divRound_eq {a b m : Nat} (hlow : 2 * m * b < 2 * a + b) (hhigh : 2 * a < 2 * m * b + b) :
    divRound a b = m := by
  have hsum : b * (a / b) + a % b = a := Nat.div_add_mod a b
  have hrest : a % b < b := Nat.mod_lt a (by omega)
  have hlt : ∀ {i j : Nat}, b * i < b * j → i < j := fun h => Nat.lt_of_mul_lt_mul_left h
  unfold divRound
  dsimp only
  generalize a / b = q at *
  generalize a % b = r at *
  split
  · have h₁ : m < q + 1 := hlt (by nlinarith)
    have h₂ : q < m + 1 := hlt (by nlinarith)
    omega
  · split
    · have h₁ : m < q + 2 := hlt (by nlinarith)
      have h₂ : q < m := hlt (by nlinarith)
      omega
    · have h₁ : m < q + 1 := hlt (by nlinarith)
      have h₂ : q < m := hlt (by nlinarith)
      omega

/-- The same for a quotient in rational numbers. -/
theorem divRound_eq_of_abs_lt {a b m : Nat} (hb : 0 < b) (h : |(a : ℚ) / b - m| < 1 / 2) :
    divRound a b = m := by
  have hb' : (0 : ℚ) < b := by exact_mod_cast hb
  obtain ⟨hlow, hhigh⟩ := abs_lt.1 h
  have hlow' : (m : ℚ) - 1 / 2 < a / b := by linarith
  have hhigh' : (a : ℚ) / b < m + 1 / 2 := by linarith
  rw [lt_div_iff₀ hb'] at hlow'
  rw [div_lt_iff₀ hb'] at hhigh'
  apply divRound_eq
  · have : (2 * m * b : ℚ) < 2 * a + b := by linarith
    exact_mod_cast this
  · have : (2 * a : ℚ) < 2 * m * b + b := by linarith
    exact_mod_cast this

/-- What is nearer to a point of its grid than half a step is rounded to that point. -/
theorem ofQuotient?_of_grid (negative : Bool) {num den m : Nat} {g : Int} (hnum : 0 < num)
    (hden : 0 < den) (hgrid : gridExponent num den = g)
    (hm : |(num : ℚ) / den / 2 ^ g - m| < 1 / 2) :
    ofQuotient? negative num den =
      if m = 2 ^ 53 then ofFields? negative (2 ^ 52) (g + 1) else ofFields? negative m g := by
  have hround : divRound (num * 2 ^ (-g).toNat) (den * 2 ^ g.toNat) = m := by
    apply divRound_eq_of_abs_lt (by positivity)
    rw [div_grid]
    exact_mod_cast hm
  unfold ofQuotient?
  rw [if_neg hnum.ne', hgrid]
  simp only [Nat.pow_eq, hround]

theorem ofFields?_self (x : Double) : ofFields? x.negative x.mantissa x.exponent = some x :=
  dif_pos x.canonical

/-- Multiplying by a power of two moves the binary logarithm. -/
theorem log_mul_two_zpow {t : ℚ} (ht : 0 < t) (e : Int) :
    Int.log 2 (t * 2 ^ e) = Int.log 2 t + e := by
  have hstep : (0 : ℚ) < 2 ^ e := by positivity
  apply log_eq_of_bounds
  · rw [zpow_add₀ (by norm_num)]
    exact mul_le_mul_of_nonneg_right (Int.zpow_log_le_self (by norm_num) ht) hstep.le
  · rw [add_right_comm, zpow_add₀ (by norm_num)]
    exact mul_lt_mul_of_pos_right (Int.lt_zpow_succ_log_self (by norm_num) t) hstep

section near

variable {x : Double} {num den : Nat} {t : ℚ}

/-- A quotient near a double that has the grid of the double is rounded to it. Here and below, `t` is
the quotient counted in steps of the grid of the double. -/
theorem ofQuotient?_of_same_grid (hnum : 0 < num) (hden : 0 < den)
    (ht : (num : ℚ) / den = t * 2 ^ x.exponent) (hnear : |t - x.mantissa| < x.mantissa / 2 ^ 54)
    (hgrid : gridExponent num den = x.exponent) : ofQuotient? x.negative num den = some x := by
  have hbits : (x.mantissa : ℚ) ≤ 2 ^ 53 := by exact_mod_cast x.mantissa_lt.le
  have hhalf : |(num : ℚ) / den / 2 ^ x.exponent - x.mantissa| < 1 / 2 := by
    rw [ht, mul_div_cancel_right₀ _ (by positivity)]
    calc |t - x.mantissa| < x.mantissa / 2 ^ 54 := hnear
      _ ≤ 2 ^ 53 / 2 ^ 54 := by gcongr
      _ = 1 / 2 := by norm_num
  rw [ofQuotient?_of_grid _ hnum hden hgrid hhalf, if_neg x.mantissa_lt.ne]
  exact x.ofFields?_self

/-- A quotient near a double from below, where the double is a power of two: the grid of the
quotient is finer, and the double is the point where it ends. -/
theorem ofQuotient?_of_finer_grid (hnum : 0 < num) (hden : 0 < den)
    (ht : (num : ℚ) / den = t * 2 ^ x.exponent) (hnear : |t - x.mantissa| < x.mantissa / 2 ^ 54)
    (hfull : x.mantissa = 2 ^ 52) (hbelow : t < 2 ^ 52)
    (hgrid : gridExponent num den = x.exponent - 1) :
    ofQuotient? x.negative num den = some x := by
  have hfull' : (x.mantissa : ℚ) = 2 ^ 52 := by exact_mod_cast hfull
  rw [hfull'] at hnear
  obtain ⟨hlow, -⟩ := abs_lt.1 hnear
  have hhalf : |(num : ℚ) / den / 2 ^ (x.exponent - 1) - (2 ^ 53 : Nat)| < 1 / 2 := by
    have hdouble : (num : ℚ) / den / 2 ^ (x.exponent - 1) = t * 2 := by
      rw [ht, zpow_sub_one₀ (by norm_num)]
      field_simp
    rw [hdouble, abs_lt]
    norm_num at hlow hbelow ⊢
    constructor <;> linarith
  rw [ofQuotient?_of_grid _ hnum hden hgrid hhalf, if_pos rfl, sub_add_cancel, ← hfull]
  exact x.ofFields?_self

/-- A quotient near a double has the grid of the double, unless it is below a power of two. -/
theorem gridExponent_of_near (hnum : 0 < num) (hden : 0 < den) (hpos : 0 < t)
    (ht : (num : ℚ) / den = t * 2 ^ x.exponent) (hnear : |t - x.mantissa| < x.mantissa / 2 ^ 54) :
    gridExponent num den = x.exponent ∨
      x.mantissa = 2 ^ 52 ∧ t < 2 ^ 52 ∧ gridExponent num den = x.exponent - 1 := by
  have hgrid : gridExponent num den = max (Int.log 2 t + x.exponent - 52) (-1074) := by
    rw [gridExponent, leadingBit_eq_log hnum hden, ht, log_mul_two_zpow hpos]
  have hleast := x.canonical.2.1
  have hbits : (x.mantissa : ℚ) ≤ 9007199254740991 := by
    exact_mod_cast Nat.le_pred_of_lt x.mantissa_lt
  obtain ⟨hlow, hhigh⟩ := abs_lt.1 hnear
  -- not in the next binade, so the grid is not coarser
  have hlog : Int.log 2 t < 53 := by
    apply (Int.lt_zpow_iff_log_lt (by norm_num) hpos).1
    norm_num at hhigh ⊢
    linarith
  refine or_iff_not_imp_left.2 fun hother => ?_
  -- a finer grid is that of the binade below, at whose end the double stands
  have hfiner : Int.log 2 t < 52 := by omega
  have hbelow : t < 2 ^ 52 := by
    exact_mod_cast (Int.lt_zpow_iff_log_lt (b := 2) (by norm_num) hpos).2 hfiner
  have hfull : x.mantissa = 2 ^ 52 := by
    have hle : 2 ^ 52 ≤ x.mantissa := x.canonical.2.2.2.resolve_right (by omega)
    have hlt : (x.mantissa : ℚ) < 4503599627370497 := by
      norm_num at hlow hbelow
      linarith
    exact le_antisymm (Nat.le_of_lt_succ (by exact_mod_cast hlt)) hle
  have hfull' : (x.mantissa : ℚ) = 2 ^ 52 := by exact_mod_cast hfull
  have habove : 51 ≤ Int.log 2 t := by
    apply (Int.zpow_le_iff_le_log (by norm_num) hpos).1
    rw [hfull'] at hlow
    norm_num at hlow ⊢
    linarith
  exact ⟨hfull, hbelow, by omega⟩

/-- Whatever is near enough to a double is rounded to it. -/
theorem ofQuotient?_of_near (hnum : 0 < num) (hden : 0 < den)
    (h : |(num : ℚ) / den - x.value| < x.value / 2 ^ 54) :
    ofQuotient? x.negative num den = some x := by
  have hstep : (0 : ℚ) < 2 ^ x.exponent := by positivity
  obtain ⟨t, ht⟩ : ∃ t : ℚ, (num : ℚ) / den = t * 2 ^ x.exponent :=
    ⟨num / den / 2 ^ x.exponent, by field_simp⟩
  have hpos : 0 < t := by
    have hq : (0 : ℚ) < num / den := by positivity
    rw [ht] at hq
    exact pos_of_mul_pos_left hq hstep.le
  have hnear : |t - x.mantissa| < x.mantissa / 2 ^ 54 := by
    rw [value, ht, ← sub_mul, abs_mul, abs_of_pos hstep, mul_div_right_comm] at h
    exact lt_of_mul_lt_mul_right h hstep.le
  rcases gridExponent_of_near hnum hden hpos ht hnear with hsame | ⟨hfull, hbelow, hfiner⟩
  · exact ofQuotient?_of_same_grid hnum hden ht hnear hsame
  · exact ofQuotient?_of_finer_grid hnum hden ht hnear hfull hbelow hfiner

end near

/-! ## The leading digit -/

theorem lt_pow_decimalLength (n : Nat) : n < 10 ^ decimalLength n := by
  obtain ⟨k, hk⟩ : ∃ k, decimalLength n = k + 1 :=
    ⟨_, (Nat.sub_add_cancel (decimalLength_pos n)).symm⟩
  rw [hk]
  exact pow_decimalLength.1 hk.le

/-- The length of a positive number, and the powers of ten around it. -/
theorem exists_decimalLength {n : Nat} (hn : 0 < n) :
    ∃ k, decimalLength n = k + 1 ∧ 10 ^ k ≤ n ∧ n < 10 ^ (k + 1) := by
  obtain ⟨k, hk⟩ : ∃ k, decimalLength n = k + 1 :=
    ⟨_, (Nat.sub_add_cancel (decimalLength_pos n)).symm⟩
  refine ⟨k, hk, ?_, hk ▸ lt_pow_decimalLength n⟩
  cases k with
  | zero => exact hn
  | succ k =>
    by_contra hlt
    have hle := pow_decimalLength.2 (Nat.lt_of_not_le hlt)
    omega

/-- The leading digit of a quotient of at least one stands before the point. -/
theorem leadingDigit_bounds_of_le {num den : Nat} (hden : 0 < den) (hle : den ≤ num) :
    (10 : ℚ) ^ leadingDigit num den ≤ (num : ℚ) / den ∧
      (num : ℚ) / den < (10 : ℚ) ^ (leadingDigit num den + 1) := by
  have hden' : (0 : ℚ) < den := by exact_mod_cast hden
  obtain ⟨k, hk, hlow, hhigh⟩ := exists_decimalLength (Nat.div_pos hle hden)
  unfold leadingDigit
  rw [if_pos hle, hk]
  push_cast
  rw [add_sub_cancel_right, le_div_iff₀ hden', div_lt_iff₀ hden', zpow_natCast]
  constructor
  · exact_mod_cast (Nat.le_div_iff_mul_le hden).1 hlow
  · exact_mod_cast (Nat.div_lt_iff_lt_mul hden).1 hhigh

/-- The leading digit of a quotient below one stands where the length of its inverse says, or one
place further. -/
theorem leadingDigit_bounds_of_lt {num den : Nat} (hnum : 0 < num) (hlt : num < den) :
    (10 : ℚ) ^ leadingDigit num den ≤ (num : ℚ) / den ∧
      (num : ℚ) / den < (10 : ℚ) ^ (leadingDigit num den + 1) := by
  have hden' : (0 : ℚ) < den := by exact_mod_cast hnum.trans hlt
  obtain ⟨k, hk, hlow, hhigh⟩ := exists_decimalLength (Nat.div_pos hlt.le hnum)
  replace hlow := (Nat.le_div_iff_mul_le hnum).1 hlow
  replace hhigh := (Nat.div_lt_iff_lt_mul hnum).1 hhigh
  -- powers below one are compared without division
  have hle_iff : ∀ j : Nat, (10 : ℚ) ^ (-(j : Int)) ≤ num / den ↔ den ≤ num * 10 ^ j := by
    intro j
    rw [le_div_iff₀ hden', zpow_neg, zpow_natCast, inv_mul_le_iff₀ (by positivity), mul_comm]
    exact_mod_cast Iff.rfl
  have hlt_iff : ∀ j : Nat, (num : ℚ) / den < 10 ^ (-(j : Int)) ↔ num * 10 ^ j < den :=
    fun j => by rw [← not_le, hle_iff, not_le]
  unfold leadingDigit
  rw [if_neg hlt.not_ge, hk]
  dsimp only
  rw [Nat.add_sub_cancel]
  split
  · next hle =>
    have hexp : (-(((k + 1 : Nat) : Int) - 1)) = -(k : Int) := by omega
    rw [hexp]
    refine ⟨(hle_iff k).2 hle, lt_of_le_of_lt (b := (10 : ℚ) ^ (-(k : Int))) ?_ ?_⟩
    · rw [div_le_iff₀ hden', zpow_neg, zpow_natCast, le_inv_mul_iff₀ (by positivity)]
      exact_mod_cast hlow
    · exact zpow_lt_zpow_right₀ (by norm_num) (by omega)
  · next hgt =>
    have hexp : -((k + 1 : Nat) : Int) + 1 = -(k : Int) := by omega
    rw [hexp]
    refine ⟨(hle_iff (k + 1)).2 ?_, (hlt_iff k).2 (Nat.lt_of_not_le hgt)⟩
    rw [mul_comm]
    exact hhigh.le

/-- The leading decimal digit stands where the decimal logarithm is. -/
theorem leadingDigit_bounds {num den : Nat} (hnum : 0 < num) (hden : 0 < den) :
    (10 : ℚ) ^ leadingDigit num den ≤ (num : ℚ) / den ∧
      (num : ℚ) / den < (10 : ℚ) ^ (leadingDigit num den + 1) := by
  rcases Nat.lt_or_ge num den with hlt | hle
  · exact leadingDigit_bounds_of_lt hnum hlt
  · exact leadingDigit_bounds_of_le hden hle

/-! ## Seventeen digits -/

/-- What the neighbours of a double on a decimal grid are: the points below and above it, counted in
steps of the grid, the nearer one first. -/
theorem exists_neighbours (x : Double) (exponent : Int) :
    ∃ below : Nat, (below : ℚ) ≤ x.value / 10 ^ exponent ∧ x.value / 10 ^ exponent < below + 1 ∧
      (x.neighbours exponent = [⟨below, exponent⟩, ⟨below + 1, exponent⟩] ∧
          x.value / 10 ^ exponent - below ≤ 1 / 2 ∨
        x.neighbours exponent = [⟨below + 1, exponent⟩, ⟨below, exponent⟩] ∧
          1 / 2 ≤ x.value / 10 ^ exponent - below) := by
  have hgrid := div_grid 10 x.numerator x.denominator exponent
  rw [quotient_eq_value, Nat.cast_ofNat] at hgrid
  unfold neighbours
  simp only [Nat.pow_eq]
  set num := x.numerator * 10 ^ (-exponent).toNat with hnum
  set den := x.denominator * 10 ^ exponent.toNat with hden
  have hpos : 0 < den := by
    rw [hden, denominator_eq]
    positivity
  have hpos' : (0 : ℚ) < den := by exact_mod_cast hpos
  have hsum : (num : ℚ) = den * (num / den : Nat) + (num % den : Nat) := by
    exact_mod_cast (Nat.div_add_mod num den).symm
  have hrest : (num % den : Nat) < den := Nat.mod_lt num hpos
  -- the remainder tells which of the two is nearer
  have hquotient : x.value / 10 ^ exponent - (num / den : Nat) = (num % den : Nat) / (den : ℚ) := by
    rw [← hgrid, hsum]
    field_simp
    ring
  have hrest' : ((num % den : Nat) : ℚ) / den < 1 := by
    rw [div_lt_one hpos']
    exact_mod_cast hrest
  have hrest0 : 0 ≤ ((num % den : Nat) : ℚ) / den := by positivity
  refine ⟨num / den, by linarith, by linarith, ?_⟩
  rw [hquotient]
  split
  · next h =>
    refine .inl ⟨rfl, ?_⟩
    rw [div_le_div_iff₀ hpos' (by norm_num)]
    have hle : 2 * (num % den) ≤ den := by omega
    have hle' : (2 : ℚ) * (num % den : Nat) ≤ den := by exact_mod_cast hle
    linarith
  · next h =>
    refine .inr ⟨rfl, ?_⟩
    rw [div_le_div_iff₀ (by norm_num) hpos']
    have hle : den ≤ 2 * (num % den) := by omega
    have hle' : (den : ℚ) ≤ 2 * (num % den : Nat) := by exact_mod_cast hle
    linarith

theorem mem_neighbours {x : Double} {exponent : Int} {d : Decimal}
    (h : d ∈ x.neighbours exponent) :
    d.exponent = exponent ∧ (d.digits : ℚ) ≤ x.value / 10 ^ exponent + 1 := by
  obtain ⟨below, hlow, -, hneighbours⟩ := x.exists_neighbours exponent
  have hd : d = ⟨below, exponent⟩ ∨ d = ⟨below + 1, exponent⟩ := by
    rcases hneighbours with ⟨hlist, -⟩ | ⟨hlist, -⟩
    · simpa [hlist] using h
    · simpa [hlist, or_comm] using h
  rcases hd with rfl | rfl
  · exact ⟨rfl, by dsimp only; linarith⟩
  · refine ⟨rfl, ?_⟩
    push_cast
    linarith

/-- One of the neighbours is at most half a unit away. -/
theorem exists_near_neighbour (x : Double) (exponent : Int) :
    ∃ d ∈ x.neighbours exponent, d.exponent = exponent ∧
      |(d.digits : ℚ) - x.value / 10 ^ exponent| ≤ 1 / 2 := by
  obtain ⟨below, hlow, hhigh, ⟨hlist, hnear⟩ | ⟨hlist, hnear⟩⟩ := x.exists_neighbours exponent
  · refine ⟨_, by rw [hlist]; exact List.mem_cons_self, rfl, ?_⟩
    rw [abs_le]
    dsimp only
    constructor <;> linarith
  · refine ⟨_, by rw [hlist]; exact List.mem_cons_self, rfl, ?_⟩
    rw [abs_le]
    push_cast
    constructor <;> linarith

/-- The leading digit of a double. -/
def lead (x : Double) : Int := leadingDigit x.numerator x.denominator

/-- A double lies between the power of ten of its lead and the next one. -/
theorem lead_bounds {x : Double} (hx : x.mantissa ≠ 0) :
    (10 : ℚ) ^ x.lead ≤ x.value ∧ x.value < (10 : ℚ) ^ (x.lead + 1) := by
  have hnum : 0 < x.numerator := by
    rw [numerator_eq]
    exact Nat.mul_pos (Nat.pos_of_ne_zero hx) (by positivity)
  have hden : 0 < x.denominator := by
    rw [denominator_eq]
    positivity
  rw [← quotient_eq_value]
  exact leadingDigit_bounds hnum hden

/-- The leads of doubles are between -324 and 308. -/
theorem lead_range {x : Double} (hx : x.mantissa ≠ 0) : -324 ≤ x.lead ∧ x.lead ≤ 308 := by
  obtain ⟨hlow, hhigh⟩ := lead_bounds hx
  obtain ⟨-, hleast, hgreatest, -⟩ := x.canonical
  constructor
  -- the least double is one step of the finest grid
  · have hpos : (1 : ℚ) ≤ x.mantissa := by exact_mod_cast Nat.one_le_iff_ne_zero.2 hx
    have hpow : ((10 : ℚ) ^ 324)⁻¹ ≤ (2 ^ 1074)⁻¹ := by
      apply inv_anti₀ (by positivity)
      exact_mod_cast (by decide +kernel : 2 ^ 1074 ≤ 10 ^ 324)
    have hlt : (10 : ℚ) ^ (-324 : Int) < 10 ^ (x.lead + 1) := by
      calc (10 : ℚ) ^ (-324 : Int) ≤ 2 ^ (-1074 : Int) := hpow
        _ ≤ 2 ^ x.exponent := zpow_le_zpow_right₀ (by norm_num) hleast
        _ ≤ x.value := le_mul_of_one_le_left (by positivity) hpos
        _ < 10 ^ (x.lead + 1) := hhigh
    have hexp := (zpow_lt_zpow_iff_right₀ (by norm_num)).1 hlt
    omega
  -- the greatest one has 53 bits on the coarsest grid
  · have hbits : (x.mantissa : ℚ) < 2 ^ 53 := by exact_mod_cast x.mantissa_lt
    have hlt : (10 : ℚ) ^ x.lead < 10 ^ (309 : Int) := by
      calc (10 : ℚ) ^ x.lead ≤ x.value := hlow
        _ < 2 ^ 53 * 2 ^ x.exponent := mul_lt_mul_of_pos_right hbits (by positivity)
        _ ≤ 2 ^ 53 * 2 ^ (971 : Int) := by
          apply mul_le_mul_of_nonneg_left _ (by positivity)
          exact zpow_le_zpow_right₀ (by norm_num) hgreatest
        _ ≤ 10 ^ (309 : Int) := by
          exact_mod_cast (by decide +kernel : 2 ^ 53 * 2 ^ 971 ≤ 10 ^ 309)
    have hexp := (zpow_lt_zpow_iff_right₀ (by norm_num)).1 hlt
    omega

/-- Counted in steps of the grid of so many digits behind its leading one, a double has as many
digits and that one. -/
theorem lead_bounds_steps {x : Double} (hx : x.mantissa ≠ 0) (n : Nat) :
    10 ^ n ≤ x.value / 10 ^ (x.lead - n) ∧ x.value / 10 ^ (x.lead - n) < 10 ^ (n + 1) := by
  obtain ⟨hlow, hhigh⟩ := lead_bounds hx
  have hgrid : (0 : ℚ) < 10 ^ (x.lead - n) := by positivity
  rw [le_div_iff₀ hgrid, div_lt_iff₀ hgrid, ← zpow_natCast, ← zpow_natCast,
    ← zpow_add₀ (by norm_num), ← zpow_add₀ (by norm_num)]
  have hleast : (n : Int) + (x.lead - n) = x.lead := by omega
  have hgreatest : ((n + 1 : Nat) : Int) + (x.lead - n) = x.lead + 1 := by omega
  rw [hleast, hgreatest]
  exact ⟨hlow, hhigh⟩

/-- A decimal of ordinary size that is near enough to a double reads back as it. -/
theorem readsBack_of_near {x : Double} {d : Decimal} (hd : 0 < d.digits)
    (hleast : -330 ≤ (decimalLength d.digits : Int) + d.exponent)
    (hgreatest : (decimalLength d.digits : Int) + d.exponent ≤ 310)
    (h : |(d.digits : ℚ) * 10 ^ d.exponent - x.value| < x.value / 2 ^ 54) :
    x.readsBack d := by
  rw [readsBack, beq_iff_eq]
  unfold ofDecimal?
  simp only [Nat.pow_eq]
  rw [if_neg hd.ne', if_neg (by omega), if_neg (by omega)]
  apply ofQuotient?_of_near (Nat.mul_pos hd (by positivity)) (by positivity)
  have hquotient := quotient_eq_mul 10 d.digits d.exponent
  rw [Nat.cast_ofNat] at hquotient
  rwa [hquotient]

/-- On the grid of seventeen digits one of the neighbours reads back. -/
theorem exists_readsBack {x : Double} (hx : x.mantissa ≠ 0) :
    ∃ d ∈ x.neighbours (x.lead - 16), x.readsBack d := by
  obtain ⟨d, hmem, hexponent, hnear⟩ := x.exists_near_neighbour (x.lead - 16)
  refine ⟨d, hmem, ?_⟩
  obtain ⟨hmany, hfew⟩ := lead_bounds_steps hx 16
  obtain ⟨hleast, hgreatest⟩ := lead_range hx
  have hgrid : (0 : ℚ) < 10 ^ (x.lead - 16) := by positivity
  -- the double counted in steps of the grid
  obtain ⟨t, ht⟩ : ∃ t : ℚ, x.value = t * 10 ^ (x.lead - 16) :=
    ⟨x.value / 10 ^ (x.lead - 16), by field_simp⟩
  rw [Nat.cast_ofNat, ht, mul_div_cancel_right₀ _ hgrid.ne'] at hmany hfew
  rw [ht, mul_div_cancel_right₀ _ hgrid.ne'] at hnear
  obtain ⟨hbelow, habove⟩ := abs_le.1 hnear
  have hdigits : 10 ^ 15 ≤ d.digits := by
    have h : (1000000000000000 : ℚ) ≤ d.digits := by
      norm_num at hmany
      linarith
    exact_mod_cast h
  have hdigits' : d.digits < 10 ^ 18 := by
    have h : (d.digits : ℚ) < 1000000000000000000 := by
      norm_num at hfew
      linarith
    exact_mod_cast h
  have hlength : ¬decimalLength d.digits ≤ 15 := fun h => by
    have := pow_decimalLength.1 h
    omega
  have hlength' : decimalLength d.digits ≤ 18 := pow_decimalLength.2 hdigits'
  apply readsBack_of_near (by omega) (by omega) (by omega)
  rw [hexponent, ht, ← sub_mul, abs_mul, abs_of_pos hgrid, mul_div_right_comm]
  apply mul_lt_mul_of_pos_right _ hgrid
  norm_num at hmany ⊢
  linarith

theorem digits_le_of_mem_neighbours {x : Double} (hx : x.mantissa ≠ 0) {n : Nat} {d : Decimal}
    (h : d ∈ x.neighbours (x.lead - n)) : d.digits ≤ 10 ^ (n + 1) := by
  obtain ⟨-, hle⟩ := mem_neighbours h
  have hdigits : (d.digits : ℚ) < 10 ^ (n + 1) + 1 := by
    linarith [(lead_bounds_steps hx n).2]
  exact Nat.le_of_lt_succ (by exact_mod_cast hdigits)

/-- The candidate that is taken for a double has seventeen digits at most. -/
theorem exists_find?_candidates {x : Double} (hx : x.mantissa ≠ 0) :
    ∃ d, x.candidates.find? x.readsBack = some d ∧ d.digits ≤ 10 ^ 17 := by
  obtain ⟨d, hmem, hreads⟩ := exists_readsBack hx
  have hcandidates : x.candidates =
      ((List.range 17).flatMap fun n : Nat => x.neighbours (x.lead - n)) ++ [x.expansion] := rfl
  rw [hcandidates, List.find?_append]
  cases hfound : List.find? x.readsBack
      ((List.range 17).flatMap fun n : Nat => x.neighbours (x.lead - n)) with
  | none =>
    have hmem' : d ∈ (List.range 17).flatMap fun n : Nat => x.neighbours (x.lead - n) :=
      List.mem_flatMap.2 ⟨16, by decide, hmem⟩
    exact absurd hreads (List.find?_eq_none.1 hfound d hmem')
  | some d' =>
    obtain ⟨n, hn, hd'⟩ := List.mem_flatMap.1 (List.mem_of_find?_eq_some hfound)
    have hle := digits_le_of_mem_neighbours hx hd'
    have hn17 : n + 1 ≤ 17 := List.mem_range.1 hn
    exact ⟨d', rfl, hle.trans (Nat.pow_le_pow_right (by norm_num) hn17)⟩

/-- Seventeen digits are always enough. -/
theorem digits_shortest_le (x : Double) : x.shortest.digits ≤ 10 ^ 17 := by
  unfold shortest
  split
  · exact Nat.zero_le _
  · next hzero =>
    have hx : x.mantissa ≠ 0 := by simpa [isZero] using hzero
    obtain ⟨d, hfound, hle⟩ := exists_find?_candidates hx
    rw [hfound]
    exact d.digits_normal_le.trans hle

end Double

end FabricGauges
