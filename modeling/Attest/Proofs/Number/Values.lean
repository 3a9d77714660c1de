import Attest.Proofs.Number.Decimal
import Mathlib.Algebra.Order.Field.Power
import Mathlib.Tactic.Linarith
import Mathlib.Tactic.Ring
/-!
# Values of binary numbers

A finite binary number denotes a significand times a power of two. Keys order the numbers as these
values do, and the gap below a number is no smaller than a `2 ^ 54`th of it.
-/

namespace Attest.Number.Binary64

variable {x y : Binary64}

/-! ### Fields -/

theorem least_exponent (x : Binary64) : -1074 ≤ x.exponent := by
  unfold exponent
  omega

theorem magnitude_eq (x : Binary64) :
    (x.magnitude : ℤ) = x.significand + (x.exponent + 1074) * fractionBound := by
  unfold significand exponent fractionBound
  dsimp only
  split <;> omega

theorem le_significand (normal : -1074 < x.exponent) : fractionBound ≤ x.significand := by
  unfold exponent at normal
  unfold significand
  dsimp only
  split
  · unfold fractionBound at *
    omega
  · omega

theorem exponent_mono (le : x.magnitude ≤ y.magnitude) : x.exponent ≤ y.exponent := by
  unfold exponent fractionBound
  omega

/-! ### Values -/

/-- The number that the magnitude of a finite number denotes. -/
def size (x : Binary64) : ℚ :=
  x.significand * 2 ^ x.exponent

def value (x : Binary64) : ℚ :=
  if x.isNegative then -x.size else x.size

theorem unit_pos (x : Binary64) : (0 : ℚ) < 2 ^ x.exponent :=
  zpow_pos (by norm_num) _

theorem size_nonneg (x : Binary64) : 0 ≤ x.size :=
  mul_nonneg (Nat.cast_nonneg _) (unit_pos x).le

theorem size_le (x : Binary64) : x.size ≤ 2 ^ 53 * 2 ^ x.exponent := by
  have bound : (x.significand : ℚ) ≤ 2 ^ 53 := by
    exact_mod_cast (significand_lt x).le
  exact mul_le_mul_of_nonneg_right bound (unit_pos x).le

theorem size_of_magnitude (same : x.magnitude = y.magnitude) : x.size = y.size := by
  rw [size, size, significand_of_magnitude same, exponent_of_magnitude same]

/-! ### Gaps -/

theorem gap_of_half {u : ℚ} (gap : u + 2 ^ y.exponent / 2 ≤ y.size) :
    u + y.size / 2 ^ 54 ≤ y.size := by
  have bound := size_le y
  linarith

/-- Below a number the multiples of its unit are a unit away. -/
theorem gap_of_multiple {k : ℕ} (less : k * 2 ^ y.exponent < y.size) :
    k * 2 ^ y.exponent + y.size / 2 ^ 54 ≤ y.size := by
  have unit := unit_pos y
  have next : k + 1 ≤ y.significand := by
    exact_mod_cast lt_of_mul_lt_mul_right less unit.le
  have next : (k : ℚ) + 1 ≤ y.significand := by exact_mod_cast next
  refine gap_of_half ?_
  calc (k : ℚ) * 2 ^ y.exponent + 2 ^ y.exponent / 2 ≤ (k + 1) * 2 ^ y.exponent := by linarith
    _ ≤ y.size := mul_le_mul_of_nonneg_right next unit.le

theorem gap_of_magnitude (less : x.magnitude < y.magnitude) :
    x.size + y.size / 2 ^ 54 ≤ y.size := by
  have unit := unit_pos y
  have first := magnitude_eq x
  have second := magnitude_eq y
  rcases eq_or_lt_of_le (exponent_mono less.le) with same | below
  · have next : x.significand < y.significand := by
      rw [same] at first
      omega
    rw [size, same]
    refine gap_of_multiple (mul_lt_mul_of_pos_right ?_ unit)
    exact_mod_cast next
  -- With a smaller unit a number is below the least significand of the greater one.
  · have normal : fractionBound ≤ y.significand :=
      le_significand (lt_of_le_of_lt (least_exponent x) below)
    have normal : (2 : ℚ) ^ 52 ≤ y.significand := by
      exact_mod_cast normal
    have small : (x.significand : ℚ) ≤ 2 ^ 53 - 1 := by
      have bound := significand_lt x
      have bound : (x.significand : ℚ) + 1 ≤ 2 ^ 53 := by exact_mod_cast bound
      linarith
    have half : (2 : ℚ) ^ x.exponent ≤ 2 ^ y.exponent / 2 := by
      have le : (2 : ℚ) ^ x.exponent ≤ 2 ^ (y.exponent - 1) :=
        zpow_le_zpow_right₀ (by norm_num) (by omega)
      rwa [zpow_sub_one₀ (by norm_num), ← div_eq_mul_inv] at le
    refine gap_of_half ?_
    calc x.size + 2 ^ y.exponent / 2
        ≤ (2 ^ 53 - 1) * (2 ^ y.exponent / 2) + 2 ^ y.exponent / 2 := by
          have le := mul_le_mul small half (unit_pos x).le (by norm_num)
          exact add_le_add_left le _
      _ = 2 ^ 52 * 2 ^ y.exponent := by ring
      _ ≤ y.size := mul_le_mul_of_nonneg_right normal unit.le

/-! ### Order -/

theorem size_pos (positive : 0 < x.magnitude) : 0 < x.size := by
  have significand : 0 < x.significand := by
    unfold significand fractionBound
    dsimp only
    split <;> omega
  exact mul_pos (Nat.cast_pos.mpr significand) (unit_pos x)

theorem size_lt_iff : x.size < y.size ↔ x.magnitude < y.magnitude := by
  have strict {a b : Binary64} (less : a.magnitude < b.magnitude) : a.size < b.size := by
    have gap := gap_of_magnitude less
    have positive := size_pos (Nat.zero_lt_of_lt less)
    linarith
  constructor
  · intro less
    by_contra beyond
    rcases eq_or_lt_of_le (Nat.le_of_not_lt beyond) with same | greater
    · exact absurd (size_of_magnitude same) less.ne'
    · exact absurd (strict greater) less.asymm
  · exact strict

theorem size_eq_iff : x.size = y.size ↔ x.magnitude = y.magnitude := by
  constructor
  · intro same
    have notLess : ¬ x.magnitude < y.magnitude := fun less => (size_lt_iff.mpr less).ne same
    have notMore : ¬ y.magnitude < x.magnitude := fun less => (size_lt_iff.mpr less).ne' same
    omega
  · exact size_of_magnitude

theorem size_pos_iff : 0 < x.size ↔ 0 < x.magnitude := by
  constructor
  · intro positive
    by_contra nothing
    have zero : x.significand = 0 := by
      have magnitude := magnitude_eq x
      have least := least_exponent x
      unfold fractionBound at magnitude
      omega
    rw [size, zero, Nat.cast_zero, zero_mul] at positive
    exact absurd positive (lt_irrefl 0)
  · exact size_pos

theorem abs_value (x : Binary64) : |x.value| = x.size := by
  have nonneg := size_nonneg x
  unfold value
  split
  · rw [abs_neg, abs_of_nonneg nonneg]
  · rw [abs_of_nonneg nonneg]

/-- Keys order numbers as their values do. -/
theorem value_lt_iff : x.value < y.value ↔ x.orderKey < y.orderKey := by
  have first := size_nonneg x
  have second := size_nonneg y
  unfold value orderKey
  cases x.isNegative <;> cases y.isNegative <;> simp only [Bool.false_eq_true, if_true, if_false]
  · rw [size_lt_iff, Nat.cast_lt]
  · exact iff_of_false (by linarith) (by omega)
  · have signed : -x.size < y.size ↔ 0 < x.size ∨ 0 < y.size := by
      constructor
      · intro less
        by_contra neither
        obtain ⟨nothing, either⟩ := not_or.mp neither
        linarith
      · rintro (positive | positive) <;> linarith
    rw [signed, size_pos_iff, size_pos_iff]
    omega
  · rw [neg_lt_neg_iff, neg_lt_neg_iff, size_lt_iff, Nat.cast_lt]

theorem compare_orderKey (x y : Binary64) : compare x.orderKey y.orderKey = compare x.value y.value := by
  refine compare_congr value_lt_iff.mp (fun same => ?_) value_lt_iff.mp
  have notLess : ¬ x.orderKey < y.orderKey := fun less => (value_lt_iff.mpr less).ne same
  have notMore : ¬ y.orderKey < x.orderKey := fun less => (value_lt_iff.mpr less).ne' same
  omega

theorem not_isNaN (finite : x.isFinite = true) : x.isNaN = false := by
  unfold isFinite at finite
  unfold isNaN
  simp only [decide_eq_true_eq, decide_eq_false_iff_not] at *
  omega

/-- Finite numbers are ordered as their values. -/
theorem compare?_of_finite (finite : x.isFinite = true) (alsoFinite : y.isFinite = true) :
    x.compare? y = some (compare x.value y.value) := by
  rw [compare?, not_isNaN finite, not_isNaN alsoFinite, compare_orderKey]
  rfl

end Attest.Number.Binary64
