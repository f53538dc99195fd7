import FabricGauges.Decimal.Double

/-!
# Natural numbers as doubles

A natural number may be rounded when it becomes a double, but it stays one: the grid is finer than
the natural numbers only where nothing has to be rounded.
-/

namespace FabricGauges.Double

/-- The value is a natural number. -/
def IsNatural (x : Double) : Prop := x.negative = false ∧ x.denominator ∣ x.numerator

instance (x : Double) : Decidable x.IsNatural := inferInstanceAs (Decidable (_ ∧ _))

/-- The leading bit of a natural number is that of its binary logarithm. -/
theorem leadingBit_one {n : Nat} (hn : n ≠ 0) : leadingBit n 1 = Nat.log2 n := by
  have hlow : 1 * Nat.pow 2 (Nat.log2 n) ≤ n * Nat.pow 2 0 := by
    have hself : 2 ^ Nat.log2 n ≤ n := Nat.log2_self_le hn
    rw [Nat.one_mul]
    exact Nat.le_trans hself (Nat.le_mul_of_pos_right n Nat.one_pos)
  have hguess : ((Nat.log2 n : Int) - Nat.log2 1) = Nat.log2 n := by
    have hone : Nat.log2 1 = 0 := rfl
    rw [hone]
    omega
  unfold leadingBit
  dsimp only
  rw [hguess, Int.toNat_natCast, Int.toNat_neg_natCast, if_pos hlow]

/-- A mantissa that makes up for a negative exponent. -/
theorem isNatural_of_dvd {x : Double} (hsign : x.negative = false)
    (hdvd : Nat.pow 2 (-x.exponent).toNat ∣ x.mantissa) : x.IsNatural :=
  ⟨hsign, Nat.dvd_trans hdvd (Nat.dvd_mul_right _ _)⟩

/-- A double that is made of fields has these fields. -/
theorem of_ofFields? {negative : Bool} {mantissa : Nat} {exponent : Int} {x : Double}
    (h : ofFields? negative mantissa exponent = some x) :
    x.negative = negative ∧ x.mantissa = mantissa ∧ x.exponent = exponent := by
  unfold ofFields? at h
  split at h
  · obtain rfl := Option.some.inj h
    exact ⟨rfl, rfl, rfl⟩
  · cases h

/-- A natural number is rounded to a natural number. -/
theorem isNatural_of_quotient {n : Nat} {x : Double} (h : ofQuotient? false n 1 = some x) :
    x.IsNatural := by
  unfold ofQuotient? at h
  split at h
  · obtain rfl := Option.some.inj h
    exact isNatural_of_dvd rfl (Nat.dvd_zero _)
  · next hn =>
    have hgrid : -52 ≤ gridExponent n 1 := by
      unfold gridExponent
      rw [leadingBit_one hn]
      omega
    dsimp only at h
    split at h
    · -- the number has been rounded up to a power of two
      obtain ⟨hsign, hmantissa, hexponent⟩ := of_ofFields? h
      refine isNatural_of_dvd hsign ?_
      rw [hmantissa]
      exact Nat.pow_dvd_pow 2 (by omega)
    · obtain ⟨hsign, hmantissa, hexponent⟩ := of_ofFields? h
      refine isNatural_of_dvd hsign ?_
      rw [hmantissa, hexponent]
      -- below zero the grid is finer than the natural numbers, and nothing is rounded
      by_cases hfine : gridExponent n 1 < 0
      · have hcoarse : (gridExponent n 1).toNat = 0 := by omega
        have hround : ∀ a : Nat, divRound a (1 * Nat.pow 2 0) = a := by
          intro a
          show divRound a 1 = a
          unfold divRound
          rw [Nat.div_one, Nat.mod_one]
          rfl
        rw [hcoarse, hround]
        exact Nat.dvd_mul_left _ _
      · have hzero : (-gridExponent n 1).toNat = 0 := by omega
        rw [hzero]
        exact Nat.one_dvd _

/-- The double nearest to a natural number is one. -/
theorem isNatural_ofNat (n : Nat) : (ofNat n).IsNatural := by
  have hsign : decide ((n : Int) < 0) = false := decide_eq_false (by omega)
  unfold ofNat ofInt
  rw [hsign, Int.natAbs_natCast]
  cases h : ofQuotient? false n 1 with
  | none => exact isNatural_of_dvd rfl (Nat.one_dvd _)
  | some x => exact isNatural_of_quotient h

example : (ofNat 3).IsNatural ∧ ¬(ofRatio 1 3).IsNatural := by decide

end FabricGauges.Double
