import FabricGauges.Decimal.Scaled
import FabricGauges.Proofs.Decimal.Digits

/-!
# Decimals that are read exactly

Reading a decimal in steps rounds more than once. Where the significand and the power of ten are
doubles themselves nothing is lost by rounding them, and one rounding is left, the one of the
decimal.
-/

namespace FabricGauges.Double

/-! ## Quotients of one value -/

/-- What a quotient rounds to depends on its value alone. -/
theorem ofQuotient?_congr (negative : Bool) {num den num' den' : Nat} (hden : 0 < den)
    (hden' : 0 < den') (h : (num : ℚ) / den = num' / den') :
    ofQuotient? negative num den = ofQuotient? negative num' den' := by
  have hden₁ : (den : ℚ) ≠ 0 := by exact_mod_cast hden.ne'
  have hden₂ : (den' : ℚ) ≠ 0 := by exact_mod_cast hden'.ne'
  have hcross : num * den' = num' * den := by
    rw [div_eq_div_iff hden₁ hden₂] at h
    exact_mod_cast h
  rw [← ofQuotient?_mul negative num hden hden', ← ofQuotient?_mul negative num' hden' hden, hcross,
    mul_comm den]

theorem denominator_pos (x : Double) : 0 < x.denominator := by
  rw [denominator_eq]
  positivity

theorem withSign_ofFields? (negative : Bool) (mantissa : Nat) (exponent : Int) :
    (ofFields? false mantissa exponent).map (·.withSign negative) =
      ofFields? negative mantissa exponent := by
  unfold ofFields?
  split <;> rfl

/-- The sign has no part in rounding. -/
theorem withSign_ofQuotient? (negative : Bool) (num den : Nat) :
    (ofQuotient? false num den).map (·.withSign negative) = ofQuotient? negative num den := by
  unfold ofQuotient?
  split
  · rfl
  · dsimp only
    split <;> exact withSign_ofFields? _ _ _

/-! ## Natural numbers -/

/-- A natural number of few binary digits, whatever zeros follow them, is the value of a double. -/
theorem exists_value_eq {m k : Nat} (hm : 0 < m) (hbits : m < 2 ^ 53) (hk : k ≤ 971) :
    ∃ x : Double, x.negative = false ∧ x.mantissa ≠ 0 ∧ x.value = m * 2 ^ k := by
  have hlow : 2 ^ m.log2 ≤ m := Nat.log2_self_le hm.ne'
  have hhigh : m < 2 ^ (m.log2 + 1) := Nat.lt_log2_self
  have hlog : m.log2 < 53 := (Nat.log2_lt hm.ne').2 hbits
  obtain ⟨s, hs⟩ : ∃ s, m.log2 + s = 52 := ⟨52 - m.log2, by omega⟩
  have hcanonical : Canonical (m * 2 ^ s) (k - s) := by
    refine ⟨?_, by omega, by omega, .inl ?_⟩
    · calc m * 2 ^ s < 2 ^ (m.log2 + 1) * 2 ^ s := Nat.mul_lt_mul_of_pos_right hhigh (by positivity)
        _ = 2 ^ 53 := by rw [← pow_add]; congr 1; omega
    · calc 2 ^ 52 = 2 ^ m.log2 * 2 ^ s := by rw [← pow_add, hs]
        _ ≤ m * 2 ^ s := Nat.mul_le_mul_right _ hlow
  refine ⟨⟨false, m * 2 ^ s, k - s, hcanonical⟩, rfl, ?_, ?_⟩
  · show m * 2 ^ s ≠ 0
    positivity
  · show ((m * 2 ^ s : Nat) : ℚ) * 2 ^ ((k : Int) - s) = m * 2 ^ k
    rw [zpow_sub₀ (by norm_num), zpow_natCast, zpow_natCast]
    push_cast
    field_simp

/-- Such a number is not rounded. -/
theorem value_ofNat {n m k : Nat} (hn : n = m * 2 ^ k) (hm : 0 < m) (hbits : m < 2 ^ 53)
    (hk : k ≤ 971) : (ofNat n).negative = false ∧ (ofNat n).mantissa ≠ 0 ∧ (ofNat n).value = n := by
  obtain ⟨x, hsign, hx, hvalue⟩ := exists_value_eq hm hbits hk
  have hvalue' : x.value = n := by
    rw [hvalue, hn]
    push_cast
    rfl
  have hpos : 0 < n := by
    rw [hn]
    positivity
  -- it is a double itself, and rounding leaves doubles as they are
  have hself : ofQuotient? false n 1 = some x := by
    rw [← hsign]
    apply ofQuotient?_of_near hpos Nat.one_pos
    rw [hvalue', Nat.cast_one, div_one, sub_self, abs_zero]
    positivity
  have hnat : ofNat n = x := by
    have hsign : decide ((n : Int) < 0) = false := decide_eq_false (by omega)
    unfold ofNat ofInt
    rw [hsign, Int.natAbs_natCast, hself]
    rfl
  rw [hnat]
  exact ⟨hsign, hx, hvalue'⟩

/-- A power of ten up to the 22nd is not rounded. -/
theorem value_powerOfTen {n : Nat} (hn : n ≤ 22) :
    (powerOfTen n).negative = false ∧ (powerOfTen n).mantissa ≠ 0 ∧
      (powerOfTen n).value = 10 ^ n := by
  have hten : Nat.pow 10 n = 5 ^ n * 2 ^ n := (Nat.mul_pow 5 2 n)
  have hfive : 5 ^ n < 2 ^ 53 := by
    calc 5 ^ n ≤ 5 ^ 22 := Nat.pow_le_pow_right (by norm_num) hn
      _ < 2 ^ 53 := by norm_num
  obtain ⟨hsign, hx, hvalue⟩ := value_ofNat hten (by positivity) hfive (by omega)
  refine ⟨hsign, hx, hvalue.trans ?_⟩
  rw [Nat.pow_eq]
  push_cast
  rfl

/-! ## Decimals -/

theorem shrink?_zero (x : Double) : x.shrink? 0 = some x := rfl

/-- Within the powers of ten that are finite, one of them is enough. -/
theorem ofScaled?_of_natAbs_le (negative : Bool) {significand : Nat} {scale : Int}
    (hx : (ofNat significand).mantissa ≠ 0) (hscale : scale.natAbs ≤ greatestPower) :
    ofScaled? negative significand scale =
      (if 0 ≤ scale then (ofNat significand).mul? (powerOfTen scale.natAbs)
        else (ofNat significand).div? (powerOfTen scale.natAbs)).map (·.withSign negative) := by
  have hzero : (ofNat significand).isZero = false := by simpa [isZero] using hx
  have hfinite : ¬(greatestPower : Int) < scale := by omega
  unfold ofScaled?
  dsimp only
  rw [hzero, if_neg hfinite, if_neg Bool.false_ne_true]
  by_cases hpos : 0 ≤ scale
  · simp only [if_pos hpos]
    have hpower : scale.toNat = scale.natAbs := by omega
    rw [hpower]
    generalize (ofNat significand).mul? (powerOfTen scale.natAbs) = product
    cases product <;> rfl
  · simp only [if_neg hpos]
    have htimes : (scale.natAbs - 1) / greatestPower = 0 := Nat.div_eq_of_lt (by omega)
    rw [htimes, Nat.zero_mul, Nat.sub_zero, shrink?_zero, Option.bind_eq_bind, Option.bind_some]
    generalize (ofNat significand).div? (powerOfTen scale.natAbs) = quotient
    cases quotient <;> rfl

/-- Where both numbers are exact, their product is rounded once. -/
theorem mul?_of_value {x y : Double} {a b : Nat} (hx : x.negative = false ∧ x.value = a)
    (hy : y.negative = false ∧ y.value = b) : x.mul? y = ofQuotient? false (a * b) 1 := by
  unfold mul?
  rw [hx.1, hy.1]
  apply ofQuotient?_congr _ (Nat.mul_pos x.denominator_pos y.denominator_pos) Nat.one_pos
  push_cast
  rw [mul_div_mul_comm, quotient_eq_value, quotient_eq_value, hx.2, hy.2, div_one]

/-- The same of their quotient. -/
theorem div?_of_value {x y : Double} {a b : Nat} (hx : x.negative = false ∧ x.value = a)
    (hy : y.negative = false ∧ y.value = b) (hb : 0 < b) :
    x.div? y = ofQuotient? false a b := by
  have hnum : 0 < y.numerator := by
    rw [Nat.pos_iff_ne_zero]
    intro h
    have hvalue := quotient_eq_value y
    rw [h, hy.2, Nat.cast_zero, zero_div] at hvalue
    exact hb.ne (by exact_mod_cast hvalue)
  unfold div?
  rw [hx.1, hy.1]
  apply ofQuotient?_congr _ (Nat.mul_pos x.denominator_pos hnum) hb
  push_cast
  rw [← hx.2, ← hy.2, ← quotient_eq_value, ← quotient_eq_value, div_div_div_eq]

/-- A decimal with a significand of 53 bits and a small scale is rounded once. -/
theorem ofScaled?_eq_ofDecimal? (negative : Bool) {digits : Nat} {scale : Int}
    (hdigits : digits ≤ 2 ^ 53) (hscale : scale.natAbs ≤ 22) :
    ofScaled? negative digits scale = ofDecimal? negative digits scale := by
  rcases Nat.eq_zero_or_pos digits with rfl | hpos
  · rfl
  -- neither the significand nor the power of ten is rounded, which leaves the rounding of their
  -- product or quotient
  obtain ⟨hsign, hx, hvalue⟩ : (ofNat digits).negative = false ∧ (ofNat digits).mantissa ≠ 0 ∧
      (ofNat digits).value = digits := by
    rcases hdigits.lt_or_eq with hlt | rfl
    · exact value_ofNat (k := 0) (by rw [pow_zero, mul_one]) hpos hlt (by norm_num)
    · exact value_ofNat (m := 1) (k := 53) (by norm_num) (by norm_num) (by norm_num) (by norm_num)
  obtain ⟨hsign', -, hvalue'⟩ := value_powerOfTen hscale
  have hpower : (powerOfTen scale.natAbs).value = (10 ^ scale.natAbs : Nat) := by
    rw [hvalue']
    push_cast
    rfl
  have hlength : decimalLength digits ≤ 16 := by
    apply pow_decimalLength.2
    exact lt_of_le_of_lt hdigits (by norm_num)
  have hlength' := decimalLength_pos digits
  have hhigh : ¬310 < (decimalLength digits : Int) + scale := by omega
  have hlow : ¬(decimalLength digits : Int) + scale < -330 := by omega
  rw [ofScaled?_of_natAbs_le negative hx (by unfold greatestPower; omega)]
  unfold ofDecimal?
  dsimp only
  rw [if_neg hpos.ne', if_neg hhigh, if_neg hlow, ← withSign_ofQuotient?]
  congr 1
  simp only [Nat.pow_eq]
  split
  · have hden : (-scale).toNat = 0 := by omega
    have hnum : scale.toNat = scale.natAbs := by omega
    rw [hden, hnum, pow_zero]
    exact mul?_of_value ⟨hsign, hvalue⟩ ⟨hsign', hpower⟩
  · have hden : (-scale).toNat = scale.natAbs := by omega
    have hnum : scale.toNat = 0 := by omega
    rw [hden, hnum, pow_zero, mul_one]
    exact div?_of_value ⟨hsign, hvalue⟩ ⟨hsign', hpower⟩ (by positivity)

end FabricGauges.Double
