import Mathlib
import Rowbase.Number.Binary64

/-!
# Rounding to 64 bits

`Binary64.roundUnits` takes a quotient to the nearest magnitude, of two equally near ones to that
with an even last place. The magnitude depends on the quotient alone, a larger quotient never has
a smaller one, and a quotient of at most 53 significant bits is its own. The quotients whose
magnitude is finite are those below `Binary64.bound`, half a place short of 2¹⁰²⁴.
-/

namespace Rowbase

namespace Binary64

variable {num den num' den' : ℕ}

/-! ## The nearest whole number -/

theorem roundDiv_cases (num den : ℕ) :
    roundDiv num den = num / den ∧
        (2 * (num % den) < den ∨ 2 * (num % den) = den ∧ Even (num / den)) ∨
      roundDiv num den = num / den + 1 ∧
        (den < 2 * (num % den) ∨ 2 * (num % den) = den ∧ ¬Even (num / den)) := by
  simp only [roundDiv, Nat.even_iff]
  split_ifs <;> omega

/-- What is rounded up to a bound is at most half above it, and half above only an even one. -/
theorem roundDiv_le_iff {most : ℕ} (hden : 0 < den) :
    roundDiv num den ≤ most ↔
      2 * num < (2 * most + 1) * den ∨ 2 * num = (2 * most + 1) * den ∧ Even most := by
  have hsplit := Nat.div_add_mod' num den
  have hmod := Nat.mod_lt num hden
  have hround := roundDiv_cases num den
  have hhalf : (2 * most + 1) * den = 2 * (most * den) + den := by ring
  rw [hhalf]
  -- the quotient without its fraction is below, at or above the bound
  rcases lt_trichotomy (num / den) most with hbelow | heq | habove
  · have hnext := Nat.mul_le_mul_right den hbelow
    rw [Nat.succ_mul] at hnext
    omega
  · rw [heq] at hsplit hround
    by_cases heven : Even most
    · simp only [heven, and_true, not_true, and_false, or_false] at hround ⊢
      omega
    · simp only [heven, and_true, not_false_eq_true, and_false, or_false] at hround ⊢
      omega
  · have hnext := Nat.mul_le_mul_right den habove
    rw [Nat.succ_mul] at hnext
    omega

theorem roundDiv_mono (hden : 0 < den) (hden' : 0 < den') (h : num * den' ≤ num' * den) :
    roundDiv num den ≤ roundDiv num' den' := by
  rw [roundDiv_le_iff hden]
  have hscaled : 2 * num * den' ≤ 2 * num' * den := by
    rw [Nat.mul_assoc, Nat.mul_assoc]
    exact Nat.mul_le_mul_left 2 h
  have hswap (k : ℕ) : k * den' * den = k * den * den' := Nat.mul_right_comm _ _ _
  rcases (roundDiv_le_iff hden').mp le_rfl with hlt | ⟨heq, heven⟩
  · refine .inl (Nat.lt_of_mul_lt_mul_right (a := den') (hscaled.trans_lt ?_))
    rw [← hswap]
    exact Nat.mul_lt_mul_of_pos_right hlt hden
  · rw [heq, hswap] at hscaled
    rcases (Nat.le_of_mul_le_mul_right hscaled hden').lt_or_eq with hlt | heq'
    · exact .inl hlt
    · exact .inr ⟨heq', heven⟩

theorem roundDiv_mul (whole : ℕ) (hden : 0 < den) : roundDiv (whole * den) den = whole := by
  simp [roundDiv, Nat.mul_div_cancel _ hden, hden]

/-! ## The nearest place -/

/-- The place nearest to a quotient among those that its own spacing has. -/
def nearestPlace (num den : ℕ) : ℕ :=
  roundDiv num (den * spacing (num / den)) * spacing (num / den)

theorem spacing_pos (units : ℕ) : 0 < spacing units :=
  Nat.two_pow_pos _

/-- A quotient up to a place of its own spacing is not taken beyond that place. -/
theorem nearestPlace_le {place : ℕ} (hden : 0 < den) (hplace : spacing (num / den) ∣ place)
    (h : num ≤ place * den) : nearestPlace num den ≤ place := by
  obtain ⟨whole, rfl⟩ := hplace
  have hpos := Nat.mul_pos hden (spacing_pos (num / den))
  rw [nearestPlace, Nat.mul_comm]
  refine Nat.mul_le_mul_left _ ?_
  conv_rhs => rw [← roundDiv_mul whole hpos]
  refine roundDiv_mono hpos hpos (Nat.mul_le_mul_right _ (h.trans_eq ?_))
  ring

/-- A quotient from a place of its own spacing on is not taken below that place. -/
theorem le_nearestPlace {place : ℕ} (hden : 0 < den) (hplace : spacing (num / den) ∣ place)
    (h : place * den ≤ num) : place ≤ nearestPlace num den := by
  obtain ⟨whole, rfl⟩ := hplace
  have hpos := Nat.mul_pos hden (spacing_pos (num / den))
  rw [nearestPlace, Nat.mul_comm _ (spacing _)]
  refine Nat.mul_le_mul_left _ ?_
  conv_lhs => rw [← roundDiv_mul whole hpos]
  refine roundDiv_mono hpos hpos (Nat.mul_le_mul_right _ (Eq.trans_le ?_ h))
  ring

/-- A power of two is a place of the counts with at most 53 more digits. -/
theorem spacing_dvd_two_pow {units place : ℕ} (h : Nat.log2 units ≤ place + 52) :
    spacing units ∣ 2 ^ place :=
  Nat.pow_dvd_pow 2 (Nat.sub_le_iff_le_add.mpr h)

theorem div_le_div_of_mul_le (hden : 0 < den) (hden' : 0 < den')
    (h : num * den' ≤ num' * den) : num / den ≤ num' / den' := by
  rw [Nat.le_div_iff_mul_le hden']
  refine Nat.le_of_mul_le_mul_right (c := den) ?_ hden
  calc
    num / den * den' * den = num / den * den * den' := Nat.mul_right_comm _ _ _
    _ ≤ num * den' := Nat.mul_le_mul_right _ (Nat.div_mul_le_self _ _)
    _ ≤ num' * den := h

theorem nearestPlace_mono (hden : 0 < den) (hden' : 0 < den') (h : num * den' ≤ num' * den) :
    nearestPlace num den ≤ nearestPlace num' den' := by
  have hlog : Nat.log2 (num / den) ≤ Nat.log2 (num' / den') := by
    rw [Nat.log2_eq_log_two, Nat.log2_eq_log_two]
    exact Nat.log_mono_right (div_le_div_of_mul_le hden hden' h)
  by_cases hsame : spacing (num / den) = spacing (num' / den')
  · rw [nearestPlace, nearestPlace, ← hsame]
    have hstep := spacing_pos (num / den)
    refine Nat.mul_le_mul_right _
      (roundDiv_mono (Nat.mul_pos hden hstep) (Nat.mul_pos hden' hstep) ?_)
    rw [← Nat.mul_assoc, ← Nat.mul_assoc]
    exact Nat.mul_le_mul_right _ h
  · -- the power of two from which on the wider spacing holds lies between the two
    have hwide : Nat.log2 (num / den) < Nat.log2 (num' / den') := by
      refine lt_of_le_of_ne hlog fun heq => hsame ?_
      rw [spacing, heq, ← spacing]
    have hnormal : 52 < Nat.log2 (num' / den') := by
      by_contra hsmall
      refine hsame ?_
      rw [spacing, spacing]
      congr 1
      omega
    have hne : num' / den' ≠ 0 := by
      intro hzero
      simp [hzero] at hnormal
    calc
      nearestPlace num den ≤ 2 ^ Nat.log2 (num' / den') := by
        have hlt : num / den < 2 ^ Nat.log2 (num' / den') :=
          Nat.lt_of_lt_of_le Nat.lt_log2_self (Nat.pow_le_pow_right (by decide) hwide)
        exact nearestPlace_le hden (spacing_dvd_two_pow (by omega))
          ((Nat.div_lt_iff_lt_mul hden).mp hlt).le
      _ ≤ nearestPlace num' den' :=
        le_nearestPlace hden' (spacing_dvd_two_pow (by omega))
          ((Nat.le_div_iff_mul_le hden').mp (Nat.log2_self_le hne))

/-- A count of at most 53 significant bits is a place of its own spacing. -/
theorem spacing_dvd {significand exponent : ℕ} (h : significand ≤ 2 ^ 53) :
    spacing (significand * 2 ^ exponent) ∣ significand * 2 ^ exponent := by
  rcases h.lt_or_eq with hlt | rfl
  · have hlog : Nat.log2 (significand * 2 ^ exponent) ≤ exponent + 52 := by
      by_cases hzero : significand * 2 ^ exponent = 0
      · simp [hzero]
      · refine Nat.lt_succ_iff.mp ((Nat.log2_lt hzero).mpr ?_)
        rw [Nat.succ_eq_add_one, Nat.add_assoc, Nat.add_comm, Nat.pow_add]
        exact Nat.mul_lt_mul_of_pos_right hlt (Nat.two_pow_pos _)
    exact (spacing_dvd_two_pow hlog).mul_left _
  · rw [← Nat.pow_add]
    exact spacing_dvd_two_pow (by rw [Nat.log2_two_pow]; omega)

/-- A place of its own spacing is nearest to itself. -/
theorem nearestPlace_eq {place : ℕ} (hden : 0 < den) (h : num = place * den)
    (hplace : spacing place ∣ place) : nearestPlace num den = place := by
  have hdiv : num / den = place := by rw [h, Nat.mul_div_cancel _ hden]
  have hown : spacing (num / den) ∣ place := by rwa [hdiv]
  exact Nat.le_antisymm (nearestPlace_le hden hown h.le) (le_nearestPlace hden hown h.ge)

/-- A quotient that is more than half a place below a power of two is taken to less. -/
theorem nearestPlace_lt {place : ℕ} (hden : 0 < den)
    (h : 2 * num < (2 ^ 54 - 1) * (2 ^ place * den)) :
    nearestPlace num den < 2 ^ (place + 53) := by
  have hpow : 2 ^ (place + 53) = 2 * 2 ^ (place + 52) := by ring
  have hpow' : 2 ^ (place + 52) = 2 ^ 52 * 2 ^ place := by ring
  have hpos := Nat.two_pow_pos place
  have hfloor : num / den < 2 ^ (place + 53) := by
    rw [Nat.div_lt_iff_lt_mul hden, hpow, hpow', Nat.mul_assoc, Nat.mul_assoc]
    omega
  rcases Nat.lt_or_ge (num / den) (2 ^ (place + 52)) with hlow | hhigh
  · -- the power of two in the middle bounds what is below it
    have hlog : Nat.log2 (num / den) ≤ place + 52 := by
      by_cases hzero : num / den = 0
      · simp [hzero]
      · exact ((Nat.log2_lt hzero).mpr hlow).le
    have hdvd : spacing (num / den) ∣ 2 ^ (place + 52) := spacing_dvd_two_pow (by omega)
    have hle := nearestPlace_le hden hdvd ((Nat.div_lt_iff_lt_mul hden).mp hlow).le
    omega
  · have hlog : Nat.log2 (num / den) = place + 52 := by
      have hne : num / den ≠ 0 := by omega
      exact (Nat.log2_eq_iff hne).mpr ⟨hhigh, hfloor⟩
    have hstep : spacing (num / den) = 2 ^ place := by
      rw [spacing, hlog, Nat.add_sub_cancel, Nat.pow_eq]
    have hround : roundDiv num (den * 2 ^ place) ≤ 2 ^ 53 - 1 := by
      rw [roundDiv_le_iff (Nat.mul_pos hden hpos), Nat.mul_comm den]
      exact .inl h
    have hle := Nat.mul_le_mul_right (2 ^ place) hround
    rw [nearestPlace, hstep]
    omega

/-! ## The nearest magnitude -/

/-- The count of the magnitude nearest to a rational number that is not negative. -/
def nearestUnits (x : ℚ) : ℕ :=
  roundUnits x.num.toNat x.den

theorem unitsPerOne_eq : unitsPerOne = 2 ^ 1074 := by
  decide +kernel

theorem limit_eq : limit = 2 ^ (2045 + 53) := by
  decide +kernel

theorem roundUnits_eq_nearestPlace (num den : ℕ) :
    roundUnits num den = nearestPlace (num * unitsPerOne) den :=
  rfl

theorem roundUnits_mono (hden : 0 < den) (hden' : 0 < den') (h : num * den' ≤ num' * den) :
    roundUnits num den ≤ roundUnits num' den' := by
  refine nearestPlace_mono hden hden' ?_
  rw [Nat.mul_right_comm, Nat.mul_right_comm num']
  exact Nat.mul_le_mul_right _ h

/-- A number that is not negative as a quotient. -/
theorem toNat_num_div_den {x : ℚ} (h : 0 ≤ x) : (x.num.toNat / x.den : ℚ) = x := by
  have hnum : ((x.num.toNat : ℤ) : ℚ) = x.num := by
    rw [Int.toNat_of_nonneg (Rat.num_nonneg.mpr h)]
  rw [Int.cast_natCast] at hnum
  rw [hnum, Rat.num_div_den]

/-- The magnitude is that of the quotient, however the quotient is written. -/
theorem roundUnits_eq_nearestUnits (num : ℕ) (hden : 0 < den) :
    roundUnits num den = nearestUnits (num / den) := by
  have hpos := (num / den : ℚ).den_pos
  have hcross : num * (num / den : ℚ).den = (num / den : ℚ).num.toNat * den := by
    have hquotient := toNat_num_div_den (x := (num / den : ℚ)) (by positivity)
    rw [div_eq_div_iff (by positivity) (by positivity)] at hquotient
    exact_mod_cast hquotient.symm
  exact Nat.le_antisymm (roundUnits_mono hden hpos hcross.le) (roundUnits_mono hpos hden hcross.ge)

theorem nearestUnits_mono {x y : ℚ} (h : x ≤ y) : nearestUnits x ≤ nearestUnits y := by
  refine roundUnits_mono x.den_pos y.den_pos ?_
  rcases le_or_gt x.num 0 with hneg | hpos
  · simp [Int.toNat_of_nonpos hneg]
  · have hx : 0 ≤ x := (Rat.num_pos.mp hpos).le
    have hy : 0 ≤ y := hx.trans h
    rw [← toNat_num_div_den hx, ← toNat_num_div_den hy,
      div_le_div_iff₀ (by exact_mod_cast x.den_pos) (by exact_mod_cast y.den_pos)] at h
    exact_mod_cast h

/-- A whole number of at most 53 significant bits is its own magnitude. -/
theorem nearestUnits_natCast {whole : ℕ} (h : whole ≤ 2 ^ 53) :
    nearestUnits whole = whole * unitsPerOne := by
  have hone := roundUnits_eq_nearestUnits whole Nat.one_pos
  rw [Nat.cast_one, div_one] at hone
  rw [← hone, roundUnits_eq_nearestPlace]
  refine nearestPlace_eq Nat.one_pos (Nat.mul_one _).symm ?_
  rw [unitsPerOne_eq]
  exact spacing_dvd h

/-! ## Finite magnitudes -/

/-- The middle between the largest finite magnitude and 2¹⁰²⁴. -/
def bound : ℚ :=
  (2 ^ 54 - 1) * 2 ^ 970

theorem bound_eq : bound = ((2 ^ 54 - 1) * 2 ^ 970 : ℕ) := by
  rw [bound, Nat.cast_mul, Nat.cast_pow, Nat.cast_ofNat]
  congr 1
  norm_num

theorem nearestUnits_bound : nearestUnits bound = limit := by
  have hone := roundUnits_eq_nearestUnits ((2 ^ 54 - 1) * 2 ^ 970) Nat.one_pos
  rw [Nat.cast_one, div_one] at hone
  rw [bound_eq, ← hone]
  decide +kernel

theorem two_mul_scaled_lt {whole : ℕ} (low high : ℕ) (h : num < whole * 2 ^ low * den) :
    2 * (num * 2 ^ high) < whole * (2 ^ (low + high + 1) * den) := by
  calc
    2 * (num * 2 ^ high) = num * 2 ^ (high + 1) := by ring
    _ < whole * 2 ^ low * den * 2 ^ (high + 1) :=
      Nat.mul_lt_mul_of_pos_right h (Nat.two_pow_pos _)
    _ = whole * (2 ^ (low + high + 1) * den) := by ring

/-- Below the middle the nearest place is finite; the middle itself is as near to an even one. -/
theorem nearestUnits_lt_limit_iff {x : ℚ} (hx : 0 ≤ x) : nearestUnits x < limit ↔ x < bound := by
  constructor
  · intro h
    by_contra hge
    have hmono := nearestUnits_mono (not_lt.mp hge)
    rw [nearestUnits_bound] at hmono
    omega
  · intro h
    rw [bound_eq, ← toNat_num_div_den hx, div_lt_iff₀ (by exact_mod_cast x.den_pos)] at h
    have hnum : x.num.toNat < (2 ^ 54 - 1) * 2 ^ 970 * x.den := by exact_mod_cast h
    rw [limit_eq]
    refine nearestPlace_lt x.den_pos ?_
    rw [unitsPerOne_eq]
    simpa only [Nat.reduceAdd] using two_mul_scaled_lt 970 1074 hnum

/-! ## Signed numbers -/

/-- The signed count of the number nearest to a rational number. -/
def nearestCount (x : ℚ) : ℤ :=
  if x < 0 then -nearestUnits (-x) else nearestUnits x

theorem nearestUnits_zero : nearestUnits 0 = 0 := by
  have hzero := nearestUnits_natCast (Nat.zero_le (2 ^ 53))
  rwa [Nat.cast_zero, Nat.zero_mul] at hzero

theorem nearestCount_of_nonneg {x : ℚ} (h : 0 ≤ x) : nearestCount x = nearestUnits x :=
  if_neg (not_lt.mpr h)

theorem nearestCount_neg {x : ℚ} (h : 0 ≤ x) : nearestCount (-x) = -nearestUnits x := by
  rcases h.eq_or_lt with rfl | hpos
  · rw [neg_zero, nearestCount_of_nonneg le_rfl, nearestUnits_zero]
    rfl
  · rw [nearestCount, if_pos (neg_neg_of_pos hpos), neg_neg]

theorem nearestCount_mono : Monotone nearestCount := by
  intro x y h
  rcases le_or_gt 0 x with hx | hx
  · rw [nearestCount_of_nonneg hx, nearestCount_of_nonneg (hx.trans h)]
    exact_mod_cast nearestUnits_mono h
  · rw [nearestCount, if_pos hx]
    rcases le_or_gt 0 y with hy | hy
    · rw [nearestCount_of_nonneg hy]
      omega
    · rw [nearestCount, if_pos hy]
      have hmono := nearestUnits_mono (neg_le_neg h)
      omega

/-- A whole number of at most 53 significant bits is counted exactly. -/
theorem nearestCount_intCast {whole : ℤ} (h : |whole| ≤ 2 ^ 53) :
    nearestCount whole = whole * unitsPerOne := by
  obtain ⟨magnitude, rfl | rfl⟩ := Int.eq_nat_or_neg whole
  · rw [Nat.abs_cast] at h
    rw [Int.cast_natCast, nearestCount_of_nonneg (Nat.cast_nonneg magnitude),
      nearestUnits_natCast (by exact_mod_cast h), Nat.cast_mul]
  · rw [abs_neg, Nat.abs_cast] at h
    rw [Int.cast_neg, Int.cast_natCast, nearestCount_neg (Nat.cast_nonneg magnitude),
      nearestUnits_natCast (by exact_mod_cast h), Nat.cast_mul, neg_mul]

end Binary64

end Rowbase
