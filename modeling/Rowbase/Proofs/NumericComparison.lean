import Rowbase.Proofs.ComparisonLaws
import Rowbase.Proofs.Numerals

/-!
# Comparing numerals

Two numerals are compared by the numbers nearest to what they write. Rounding keeps whole numbers up
to 2⁵³ apart and never puts two numbers into the opposite order, so that a comparison of such whole
numbers is exact, and any other can only mistake different numbers for equal ones.
-/

namespace Rowbase

open Binary64

variable {x y : ℚ} {m n : ℤ}

/-! ## The order of the nearest numbers -/

theorem compare_nearestCount_ne_gt (h : x ≤ y) :
    compare (nearestCount x) (nearestCount y) ≠ .gt :=
  compare_le_iff_le.mpr (nearestCount_mono h)

theorem compare_nearestCount_ne_lt (h : y ≤ x) :
    compare (nearestCount x) (nearestCount y) ≠ .lt :=
  compare_ge_iff_ge.mpr (nearestCount_mono h)

theorem unitsPerOne_pos : 0 < unitsPerOne := by
  decide +kernel

theorem compare_nearestCount_intCast (hm : |m| ≤ 2 ^ 53) (hn : |n| ≤ 2 ^ 53) :
    compare (nearestCount m) (nearestCount n) = compare m n := by
  have hunits : (0 : ℤ) < unitsPerOne := Int.natCast_pos.mpr unitsPerOne_pos
  rw [nearestCount_intCast hm, nearestCount_intCast hn]
  rcases lt_trichotomy m n with hlt | rfl | hgt
  · rw [compare_lt_iff_lt.mpr hlt, compare_lt_iff_lt.mpr (Int.mul_lt_mul_of_pos_right hlt hunits)]
  · rw [compare_eq_iff_eq.mpr rfl, compare_eq_iff_eq.mpr rfl]
  · rw [compare_gt_iff_gt.mpr hgt, compare_gt_iff_gt.mpr (Int.mul_lt_mul_of_pos_right hgt hunits)]

theorem natCast_lt_bound {whole : ℕ} (h : whole ≤ 2 ^ 64) : (whole : ℚ) < bound := by
  have hlimit : 2 ^ 64 < (2 ^ 54 - 1) * 2 ^ 970 := by decide +kernel
  rw [bound_eq]
  exact Nat.cast_lt.mpr (h.trans_lt hlimit)

theorem abs_intCast_lt_bound (h : |m| ≤ 2 ^ 53) : |(m : ℚ)| < bound := by
  rw [Int.abs_eq_natAbs] at h
  rw [← Int.cast_abs, Int.abs_eq_natAbs, Int.cast_natCast]
  exact natCast_lt_bound (by omega)

namespace Numeral

variable {field numeral : String} {literal : Literal} {comparator : Comparator}

theorem numericOrder?_eq (hx : Numeral field x) (hy : Numeral numeral y) :
    numericOrder? field numeral =
      if |x| < bound ∧ |y| < bound then some (compare (nearestCount x) (nearestCount y))
      else none := by
  split_ifs with hfinite
  · obtain ⟨m, hm⟩ := Option.isSome_iff_exists.mp (hx.isSome_fieldNumber?_iff.mpr hfinite.1)
    obtain ⟨n, hn⟩ := Option.isSome_iff_exists.mp (hy.isSome_fieldNumber?_iff.mpr hfinite.2)
    rw [numericOrder?, hm, hn, ← hx.value_of_fieldNumber? hm, ← hy.value_of_fieldNumber? hn]
    rfl
  · rw [← hx.isSome_fieldNumber?_iff, ← hy.isSome_fieldNumber?_iff] at hfinite
    exact numericOrder?_eq_none hfinite

/-- Two numerals are in the order of the nearest numbers, or in none if one of them has none. -/
theorem compareField_eq (hx : Numeral field x) (hy : Numeral numeral y)
    (hliteral : literal ∈ [.integer numeral, .decimal numeral]) (hlike : comparator ≠ .like) :
    compareField field comparator literal =
      if |x| < bound ∧ |y| < bound then
        comparator.holds (compare (nearestCount x) (nearestCount y))
      else comparator.holdsUnordered false := by
  rw [compareField_numeral hliteral hlike, numericOrder?_eq hx hy]
  split_ifs <;> rfl

/-- A quoted numeral is compared like the numeral if both sides are finite numbers. -/
theorem compareField_text_eq (hx : Numeral field x) (hy : Numeral numeral y)
    (hfinite : |x| < bound ∧ |y| < bound) (hlike : comparator ≠ .like) :
    compareField field comparator (.text numeral) =
      comparator.holds (compare (nearestCount x) (nearestCount y)) := by
  rw [decides_text field numeral comparator hlike, fieldOrder, numericOrder?_eq hx hy,
    if_pos hfinite, Option.getD_some]

theorem compareField_of_intCast (hm : Numeral field m) (hn : Numeral numeral n)
    (hliteral : literal ∈ [.integer numeral, .decimal numeral]) (hlike : comparator ≠ .like)
    (hmBound : |m| ≤ 2 ^ 53) (hnBound : |n| ≤ 2 ^ 53) :
    compareField field comparator literal = comparator.holds (compare m n) := by
  rw [hm.compareField_eq hn hliteral hlike,
    if_pos ⟨abs_intCast_lt_bound hmBound, abs_intCast_lt_bound hnBound⟩,
    compare_nearestCount_intCast hmBound hnBound]

end Numeral

/-- Between whole numbers up to 2⁵³ every comparison is exact, and between any two numbers none says
the opposite of the truth; quoting the literal changes nothing where both numbers are finite. -/
theorem comparison_of_numerals {field numeral : String} {literal : Literal}
    (hx : Numeral field x) (hy : Numeral numeral y)
    (hliteral : literal ∈ [.integer numeral, .decimal numeral]) :
    (∀ m n : ℤ, x = m → y = n → |m| ≤ 2 ^ 53 → |n| ≤ 2 ^ 53 →
      compareField field .equal literal = decide (m = n) ∧
      compareField field .notEqual literal = decide (m ≠ n) ∧
      compareField field .less literal = decide (m < n) ∧
      compareField field .greater literal = decide (m > n) ∧
      compareField field .atMost literal = decide (m ≤ n) ∧
      compareField field .atLeast literal = decide (m ≥ n)) ∧
    (x < y → compareField field .greater literal = false ∧
      (|x| < bound → |y| < bound → compareField field .atMost literal = true)) ∧
    (y < x → compareField field .less literal = false ∧
      (|x| < bound → |y| < bound → compareField field .atLeast literal = true)) ∧
    (|x| < bound → |y| < bound → ∀ comparator ≠ .like,
      compareField field comparator (.text numeral) = compareField field comparator literal) := by
  refine ⟨?whole, ?below, ?above, ?quoted⟩
  case whole =>
    rintro m n rfl rfl hm hn
    have hcompare (comparator : Comparator) (hlike : comparator ≠ .like) :
        compareField field comparator literal = comparator.holds (compare m n) :=
      hx.compareField_of_intCast hy hliteral hlike hm hn
    rw [hcompare .equal (by decide), hcompare .notEqual (by decide), hcompare .less (by decide),
      hcompare .greater (by decide), hcompare .atMost (by decide), hcompare .atLeast (by decide)]
    simp only [Comparator.holds, compare_eq_iff_eq, compare_lt_iff_lt, compare_gt_iff_gt, ne_eq,
      not_lt, gt_iff_lt, ge_iff_le, and_self]
  case below =>
    intro hlt
    have hne := compare_nearestCount_ne_gt hlt.le
    constructor
    · rw [hx.compareField_eq hy hliteral (by decide)]
      split_ifs <;> simp [Comparator.holds, Comparator.holdsUnordered, hne]
    · intro hxBound hyBound
      rw [hx.compareField_eq hy hliteral (by decide), if_pos ⟨hxBound, hyBound⟩]
      simp [Comparator.holds, hne]
  case above =>
    intro hlt
    have hne := compare_nearestCount_ne_lt hlt.le
    constructor
    · rw [hx.compareField_eq hy hliteral (by decide)]
      split_ifs <;> simp [Comparator.holds, Comparator.holdsUnordered, hne]
    · intro hxBound hyBound
      rw [hx.compareField_eq hy hliteral (by decide), if_pos ⟨hxBound, hyBound⟩]
      simp [Comparator.holds, hne]
  case quoted =>
    intro hxBound hyBound comparator hlike
    rw [hx.compareField_text_eq hy ⟨hxBound, hyBound⟩ hlike, hx.compareField_eq hy hliteral hlike,
      if_pos ⟨hxBound, hyBound⟩]

/-- Signs and leading zeros do not matter, and 2⁵³ itself is still compared exactly. -/
theorem comparison_of_numerals_at_two_pow :
    compareField "-007" .less (.integer "+9007199254740992") = true ∧
    compareField "-007" .greater (.integer "+9007199254740992") = false ∧
    compareField "-007" .atMost (.text "+9007199254740992") =
      compareField "-007" .atMost (.integer "+9007199254740992") := by
  have hseven : Numeral "-007" (-7 : ℤ) := by
    have hdigits : Digits "007" := ⟨by decide, by simp⟩
    have hvalue : wholeValue "007" = 7 := by decide +kernel
    simpa [hvalue, withSign] using Numeral.integer (show "-" ∈ signs by decide) hdigits
  have hlimit : Numeral "+9007199254740992" (9007199254740992 : ℤ) := by
    have hdigits : Digits "9007199254740992" := ⟨by decide, by simp⟩
    have hvalue : wholeValue "9007199254740992" = 9007199254740992 := by decide +kernel
    simpa [hvalue, withSign] using Numeral.integer (show "+" ∈ signs by decide) hdigits
  obtain ⟨hwhole, hbelow, -, hquoted⟩ :=
    comparison_of_numerals hseven hlimit List.mem_cons_self
  obtain ⟨-, -, hless, -⟩ := hwhole (-7) 9007199254740992 rfl rfl (by decide) (by decide)
  have hseven_lt : |((-7 : ℤ) : ℚ)| < bound := abs_intCast_lt_bound (by decide)
  have hlimit_lt : |((9007199254740992 : ℤ) : ℚ)| < bound := abs_intCast_lt_bound (by decide)
  exact ⟨by rw [hless]; decide, (hbelow (by norm_num)).1,
    hquoted hseven_lt hlimit_lt .atMost (by decide)⟩

end Rowbase
