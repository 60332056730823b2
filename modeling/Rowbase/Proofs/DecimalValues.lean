import Rowbase.Number.Decimal
import Rowbase.Proofs.Rounding

/-!
# The number nearest to a decimal

A decimal is read as the finite number nearest to its exact value, whatever its exponent is:
a value that `Decimal.toBinary64?` refuses or takes for zero because of its exponent alone would be
rounded to the same. There is no such number exactly if the value reaches `Binary64.bound`.
-/

namespace Rowbase

open Binary64

namespace Binary64

theorem ofQuotient?_eq (negative : Bool) (num : ℕ) {den : ℕ} (hden : 0 < den) :
    ofQuotient? negative num den =
      if (num / den : ℚ) < bound then
        some { negative, units := nearestUnits (num / den) }
      else none := by
  have hnonneg : (0 : ℚ) ≤ num / den := by positivity
  simp only [← nearestUnits_lt_limit_iff hnonneg, ← roundUnits_eq_nearestUnits num hden]
  rfl

/-- A quotient of less than half a unit is nearest to zero. -/
theorem roundUnits_eq_zero {num den : ℕ} (h : 2 * (num * unitsPerOne) < den) :
    roundUnits num den = 0 := by
  have hstep := spacing_pos (num * unitsPerOne / den)
  have hround : roundDiv (num * unitsPerOne) (den * spacing (num * unitsPerOne / den)) ≤ 0 := by
    have hden : 0 < den := by omega
    rw [roundDiv_le_iff (Nat.mul_pos hden hstep), Nat.mul_zero, Nat.zero_add, Nat.one_mul]
    exact .inl (h.trans_le (Nat.le_mul_of_pos_right _ hstep))
  rw [roundUnits_eq_nearestPlace, nearestPlace, Nat.le_zero.mp hround, Nat.zero_mul]

theorem limit_pos : 0 < limit := by
  decide +kernel

theorem ofQuotient?_of_small (negative : Bool) {num den : ℕ}
    (h : 2 * (num * unitsPerOne) < den) :
    ofQuotient? negative num den = some { negative, units := 0 } := by
  simp [ofQuotient?, roundUnits_eq_zero h, limit_pos]

end Binary64

namespace Decimal

/-- The exact value without its sign. -/
def magnitude (d : Decimal) : ℚ :=
  d.digits * 10 ^ d.exponent

/-- The exact value. -/
def value (d : Decimal) : ℚ :=
  if d.negative then -d.magnitude else d.magnitude

variable {d : Decimal}

theorem magnitude_nonneg (d : Decimal) : 0 ≤ d.magnitude :=
  mul_nonneg (Nat.cast_nonneg _) (zpow_nonneg (by norm_num) _)

theorem abs_value (d : Decimal) : |d.value| = d.magnitude := by
  rw [value]
  split
  · rw [abs_neg, abs_of_nonneg d.magnitude_nonneg]
  · exact abs_of_nonneg d.magnitude_nonneg

/-! ## Told from the exponent -/

theorem bound_le_ten_pow {exponent : ℕ} (h : 309 ≤ exponent) : bound ≤ (10 ^ exponent : ℕ) := by
  have hfirst : (2 ^ 54 - 1) * 2 ^ 970 ≤ 10 ^ 309 := by decide +kernel
  have hpow : Monotone (10 ^ · : ℕ → ℕ) := pow_right_mono₀ (by decide)
  rw [bound_eq]
  exact Nat.cast_le.mpr (hfirst.trans (hpow h))

theorem toBinary64?_of_nonneg (h : 0 ≤ d.exponent) :
    d.toBinary64? = ofQuotient? d.negative (d.digits * 10 ^ d.exponent.toNat) 1 := by
  simp only [toBinary64?]
  split_ifs with hzero hlarge
  · rw [hzero, Nat.zero_mul, ofQuotient?_of_small]
    simp
  · have hpow := bound_le_ten_pow (Int.le_toNat h |>.mpr hlarge)
    have hdigits : 10 ^ d.exponent.toNat ≤ d.digits * 10 ^ d.exponent.toNat :=
      Nat.le_mul_of_pos_left _ (Nat.pos_of_ne_zero hzero)
    have hbeyond : bound ≤ (d.digits * 10 ^ d.exponent.toNat : ℕ) :=
      hpow.trans (Nat.cast_le.mpr hdigits)
    rw [ofQuotient?_eq _ _ Nat.one_pos, Nat.cast_one, div_one, if_neg (not_lt.mpr hbeyond)]
  · rfl

/-- Many places make less than half a unit of the digits in front of them. -/
theorem two_mul_scaled_lt_ten_pow {digits scale places : ℕ}
    (h : Nat.log2 digits + (scale + 3) ≤ 3 * places) : 2 * (digits * 2 ^ scale) < 10 ^ places := by
  calc
    2 * (digits * 2 ^ scale) = digits * 2 ^ (scale + 1) := by ring
    _ < 2 ^ (Nat.log2 digits + 1) * 2 ^ (scale + 1) :=
      Nat.mul_lt_mul_of_pos_right Nat.lt_log2_self (Nat.two_pow_pos _)
    _ = 2 ^ (Nat.log2 digits + 1 + (scale + 1)) := (Nat.pow_add _ _ _).symm
    _ ≤ 2 ^ (3 * places) := Nat.pow_le_pow_right (by decide) (by omega)
    _ = 8 ^ places := Nat.pow_mul _ _ _
    _ ≤ 10 ^ places := Nat.pow_le_pow_left (by decide) _

theorem toBinary64?_of_neg (h : d.exponent < 0) :
    d.toBinary64? = ofQuotient? d.negative d.digits (10 ^ (-d.exponent).toNat) := by
  simp only [toBinary64?]
  split_ifs with hzero hlarge hpos hsmall
  · rw [hzero, ofQuotient?_of_small]
    simp
  · omega
  · omega
  · rw [ofQuotient?_of_small]
    rw [unitsPerOne_eq]
    exact two_mul_scaled_lt_ten_pow hsmall
  · rfl

/-! ## Told from the exact value -/

theorem magnitude_of_nonneg (h : 0 ≤ d.exponent) :
    d.magnitude = (d.digits * 10 ^ d.exponent.toNat : ℕ) / (1 : ℕ) := by
  obtain ⟨places, hplaces⟩ := Int.eq_ofNat_of_zero_le h
  simp [magnitude, hplaces]

theorem magnitude_of_neg (h : d.exponent < 0) :
    d.magnitude = d.digits / (10 ^ (-d.exponent).toNat : ℕ) := by
  obtain ⟨places, hplaces⟩ := Int.eq_ofNat_of_zero_le (Int.neg_nonneg_of_nonpos h.le)
  have hexponent : d.exponent = -places := by omega
  simp [magnitude, hexponent, div_eq_mul_inv]

/-- A decimal is read as the finite number nearest to its exact value. -/
theorem toBinary64?_eq (d : Decimal) :
    d.toBinary64? =
      if d.magnitude < bound then
        some { negative := d.negative, units := nearestUnits d.magnitude }
      else none := by
  rcases le_or_gt 0 d.exponent with hpos | hneg
  · rw [toBinary64?_of_nonneg hpos, ofQuotient?_eq _ _ Nat.one_pos, magnitude_of_nonneg hpos]
  · rw [toBinary64?_of_neg hneg, ofQuotient?_eq _ _ (by positivity), magnitude_of_neg hneg]

theorem isSome_toBinary64?_iff : d.toBinary64?.isSome ↔ |d.value| < bound := by
  rw [toBinary64?_eq, abs_value]
  split
  next h => simpa using h
  next h => simpa using h

theorem value_of_toBinary64? {x : Binary64} (h : d.toBinary64? = some x) :
    x.value = nearestCount d.value := by
  rw [toBinary64?_eq] at h
  split at h
  · cases h
    rw [Binary64.value, value]
    split
    · rw [nearestCount_neg d.magnitude_nonneg]
    · rw [nearestCount_of_nonneg d.magnitude_nonneg]
  · simp at h

end Decimal

end Rowbase
