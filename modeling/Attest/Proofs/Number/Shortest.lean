import Attest.Proofs.Number.Nearest
/-!
# Shortest decimals

The shortest decimal of a binary number is one of the numbers around it: the search ends on a grid
at the latest where a step is a quarter of the last place.
-/

namespace Attest.Number

theorem tenTo_toNat (k : ℤ) : (tenTo k.toNat : ℚ) = 10 ^ k * tenTo (-k).toNat := by
  obtain ⟨n, rfl | rfl⟩ := k.eq_nat_or_neg
  · simp [tenTo]
  · simp [tenTo]

namespace Digits

def value (d : Digits) : ℚ :=
  d.digits * 10 ^ d.exponent

theorem value_strip (limit : ℕ) (d : Digits) : (d.strip limit).value = d.value := by
  induction limit generalizing d with
  | zero => rfl
  | succ limit ih =>
    rw [strip]
    split
    · next trailing =>
      have tenth : (d.digits : ℚ) = (d.digits / 10 : ℕ) * 10 := by
        have whole : d.digits = d.digits / 10 * 10 := by omega
        exact_mod_cast whole
      rw [ih, value, value, tenth, zpow_add_one₀ (by norm_num)]
      ring
    · rfl

end Digits

namespace Binary64

variable {x : Binary64} {tie : Tie} {k top : ℤ}

/-! ### Grids -/

def gridUp (x : Binary64) (k : ℤ) : ℕ :=
  twoTo (x.exponent - 2).toNat * tenTo (-k).toNat

def gridDen (x : Binary64) (k : ℤ) : ℕ :=
  twoTo (2 - x.exponent).toNat * tenTo k.toNat

/-- The point of the grid of `10 ^ k` is among the numbers that the binary number covers. -/
def onGrid (x : Binary64) (k : ℤ) (point : ℕ) : Bool :=
  let low := (4 * x.significand - x.lowerGap) * gridUp x k
  let high := (4 * x.significand + 2) * gridUp x k
  if x.significand % 2 = 0 then low ≤ point * gridDen x k && point * gridDen x k ≤ high
  else low < point * gridDen x k && point * gridDen x k < high

def gridBelow (x : Binary64) (k : ℤ) : ℕ :=
  4 * x.significand * gridUp x k / gridDen x k

theorem gridPoint?_cases (tie : Tie) (x : Binary64) (k : ℤ) :
    (∃ point, gridPoint? tie x k = some point ∧ onGrid x k point = true) ∨
      gridPoint? tie x k = none ∧ onGrid x k (gridBelow x k) = false := by
  unfold gridPoint?
  dsimp only
  split
  · next below above =>
    refine .inl ⟨_, rfl, ?_⟩
    split
    · exact below
    · split
      · exact above
      · exact below
  · next below _ => exact .inl ⟨_, rfl, below⟩
  · next _ above => exact .inl ⟨_, rfl, above⟩
  · next below _ => exact .inr ⟨rfl, below⟩

/-- Both numbers of a grid are those of the binary number and of the grid, on one scale. -/
theorem grid_scale (x : Binary64) (k : ℤ) :
    ∃ c : ℚ, 0 < c ∧ (gridUp x k : ℚ) = 2 ^ x.exponent / 4 * c ∧ (gridDen x k : ℚ) = 10 ^ k * c := by
  have first := twoTo_toNat (x.exponent - 2)
  have second := tenTo_toNat k
  have quarter : (2 : ℚ) ^ (x.exponent - 2) = 2 ^ x.exponent / 4 := by
    rw [zpow_sub₀ (by norm_num)]
    norm_num
  rw [neg_sub, quarter] at first
  refine ⟨twoTo (2 - x.exponent).toNat * tenTo (-k).toNat, ?_, ?_, ?_⟩
  · exact mul_pos (Nat.cast_pos.mpr (twoTo_pos _)) (Nat.cast_pos.mpr (tenTo_pos _))
  · rw [gridUp, Nat.cast_mul, first]
    ring
  · rw [gridDen, Nat.cast_mul, second]
    ring

section

variable {n m : ℕ} {p q c : ℚ} (scale : 0 < c) (first : (n : ℚ) = p * c) (second : (m : ℚ) = q * c)
include scale first second

theorem le_iff_of_scaled : n ≤ m ↔ p ≤ q := by
  rw [← Nat.cast_le (α := ℚ), first, second]
  exact mul_le_mul_iff_of_pos_right scale

theorem lt_iff_of_scaled : n < m ↔ p < q := by
  rw [← Nat.cast_lt (α := ℚ), first, second]
  exact mul_lt_mul_iff_of_pos_right scale

end

theorem covers_iff_onGrid (positive : 0 < x.significand) (point : ℕ) :
    onGrid x k point = true ↔ x.Covers (point * 10 ^ k) := by
  obtain ⟨c, scale, up, den⟩ := grid_scale x k
  have gap : x.lowerGap ≤ 4 * x.significand := by
    have most := lowerGap_le x
    omega
  have low : (((4 * x.significand - x.lowerGap) * gridUp x k : ℕ) : ℚ) = x.lowerEnd * c := by
    rw [Nat.cast_mul, Nat.cast_sub gap, up, lowerEnd]
    push_cast
    ring
  have high : (((4 * x.significand + 2) * gridUp x k : ℕ) : ℚ) = x.upperEnd * c := by
    rw [Nat.cast_mul, up, upperEnd]
    push_cast
    ring
  have place : ((point * gridDen x k : ℕ) : ℚ) = point * 10 ^ k * c := by
    rw [Nat.cast_mul, den]
    ring
  unfold onGrid
  dsimp only
  split
  · next even =>
    rw [Bool.and_eq_true, decide_eq_true_iff, decide_eq_true_iff, le_iff_of_scaled scale low place,
      le_iff_of_scaled scale place high]
    constructor
    · rintro ⟨first, second⟩
      exact ⟨first, second, fun odd => by omega⟩
    · intro covers
      exact ⟨covers.low, covers.high⟩
  · next odd =>
    rw [Bool.and_eq_true, decide_eq_true_iff, decide_eq_true_iff, lt_iff_of_scaled scale low place,
      lt_iff_of_scaled scale place high]
    constructor
    · rintro ⟨first, second⟩
      exact ⟨first.le, second.le, fun _ => ⟨first, second⟩⟩
    · intro covers
      exact covers.inside (by omega)

/-- On a fine grid the point below the number is near enough. -/
theorem onGrid_of_fine (positive : 0 < x.significand) (fine : (10 : ℚ) ^ k ≤ 2 ^ x.exponent / 4) :
    onGrid x k (gridBelow x k) = true := by
  obtain ⟨c, scale, up, den⟩ := grid_scale x k
  have step : (0 : ℚ) < 10 ^ k := zpow_pos (by norm_num) k
  have size : ((4 * x.significand * gridUp x k : ℕ) : ℚ) = x.size * c := by
    rw [Nat.cast_mul, up, Binary64.size]
    push_cast
    ring
  have unit : 0 < gridDen x k := Nat.mul_pos (twoTo_pos _) (tenTo_pos _)
  have below : (gridBelow x k : ℚ) * 10 ^ k ≤ x.size := by
    refine le_of_mul_le_mul_right ?_ scale
    rw [← size, mul_assoc, ← den]
    exact_mod_cast Nat.div_mul_le_self _ _
  have above : x.size < ((gridBelow x k : ℚ) + 1) * 10 ^ k := by
    refine lt_of_mul_lt_mul_right ?_ scale.le
    rw [← size, mul_assoc _ _ c, ← den]
    have less : 4 * x.significand * gridUp x k < (gridBelow x k + 1) * gridDen x k :=
      Nat.lt_mul_of_div_lt (Nat.lt_succ_self _) unit
    exact_mod_cast less
  have gap : (1 : ℚ) ≤ x.lowerGap := by exact_mod_cast lowerGap_pos x
  have lower : x.lowerEnd + 2 ^ x.exponent / 4 ≤ x.size := by
    have scaled := mul_le_mul_of_nonneg_right gap (unit_pos x).le
    rw [lowerEnd, Binary64.size]
    linarith
  have low : x.lowerEnd < gridBelow x k * 10 ^ k := by linarith
  have high := lt_of_le_of_lt below (size_lt_upperEnd x)
  exact (covers_iff_onGrid positive _).mpr ⟨low.le, high.le, fun _ => ⟨low, high⟩⟩

theorem covers_searchGrids (positive : 0 < x.significand) (count limit last : ℕ)
    (first : count ≤ last) (reached : last < count + limit)
    (fine : (10 : ℚ) ^ (top - last) ≤ 2 ^ x.exponent / 4) :
    x.Covers (searchGrids tie x top count limit).value := by
  induction limit generalizing count with
  | zero => omega
  | succ limit ih =>
    rw [searchGrids]
    rcases gridPoint?_cases tie x (top - count) with ⟨point, found, inside⟩ | ⟨noPoint, outside⟩
    · rw [found]
      exact (covers_iff_onGrid positive point).mp inside
    · rw [noPoint]
      refine ih (count + 1) ?_ (by omega)
      -- the last grid is fine, so it is none of those without a point
      by_contra beyond
      obtain rfl : count = last := by omega
      rw [onGrid_of_fine positive fine] at outside
      cases outside

/-! ### The first digit -/

/-- `59 / 196` is below the decimal logarithm of two, and `28 / 93` is above it. -/
theorem ten_le_two {t : ℤ} (least : -2000 ≤ t) (most : t ≤ 2000) :
    (10 : ℚ) ^ (t * 30103 / 100000 - 1) ≤ 2 ^ t := by
  rcases le_or_gt 0 t with up | down
  · obtain ⟨n, rfl⟩ := Int.eq_ofNat_of_zero_le up
    rcases le_or_gt 0 ((n : ℤ) * 30103 / 100000 - 1) with whole | fraction
    · obtain ⟨m, count⟩ := Int.eq_ofNat_of_zero_le whole
      rw [count, zpow_natCast, zpow_natCast]
      refine le_of_pow_le_pow_left₀ (n := 59) (by norm_num) (by positivity) ?_
      calc ((10 : ℚ) ^ m) ^ 59 = (10 ^ 59) ^ m := by rw [← pow_mul, ← pow_mul, mul_comm]
        _ ≤ (2 ^ 196) ^ m := pow_le_pow_left₀ (by norm_num) (by norm_num) m
        _ = 2 ^ (196 * m) := (pow_mul _ _ _).symm
        _ ≤ 2 ^ (n * 59) := pow_le_pow_right₀ (by norm_num) (by omega)
        _ = (2 ^ n) ^ 59 := pow_mul _ _ _
    · have one : (1 : ℚ) ≤ 2 ^ (n : ℤ) := one_le_zpow₀ (by norm_num) up
      exact (zpow_le_one_of_nonpos₀ (by norm_num) fraction.le).trans one
  · obtain ⟨n, same⟩ := Int.eq_ofNat_of_zero_le (neg_nonneg.mpr down.le)
    obtain ⟨m, count⟩ := Int.eq_ofNat_of_zero_le (a := 1 - t * 30103 / 100000) (by omega)
    have power : t * 30103 / 100000 - 1 = -(m : ℤ) := by omega
    have exponent : t = -(n : ℤ) := by omega
    rw [power, exponent, zpow_neg, zpow_neg, zpow_natCast, zpow_natCast]
    refine inv_anti₀ (by positivity) ?_
    refine le_of_pow_le_pow_left₀ (n := 28) (by norm_num) (by positivity) ?_
    calc ((2 : ℚ) ^ n) ^ 28 = 2 ^ (n * 28) := (pow_mul _ _ _).symm
      _ ≤ 2 ^ (93 * m) := pow_le_pow_right₀ (by norm_num) (by omega)
      _ = (2 ^ 93) ^ m := pow_mul _ _ _
      _ ≤ (10 ^ 28) ^ m := pow_le_pow_left₀ (by norm_num) (by norm_num) m
      _ = (10 ^ m) ^ 28 := by rw [← pow_mul, ← pow_mul, mul_comm]

theorem le_of_decimalExponent {num den : ℕ} (first : 0 < num) (second : 0 < den)
    (least : -1900 ≤ (num.log2 : ℤ) - den.log2) (most : (num.log2 : ℤ) - den.log2 ≤ 1900) :
    (10 : ℚ) ^ decimalExponent num den ≤ num / den := by
  have unit : (0 : ℚ) < den := Nat.cast_pos.mpr second
  have reaches {e : ℤ} (reached : den * tenTo e.toNat ≤ num * tenTo (-e).toNat) :
      (10 : ℚ) ^ e ≤ num / den := by
    have scale : (0 : ℚ) < tenTo (-e).toNat := Nat.cast_pos.mpr (tenTo_pos _)
    have le : (den : ℚ) * tenTo e.toNat ≤ num * tenTo (-e).toNat := by exact_mod_cast reached
    rw [tenTo_toNat e, ← mul_assoc] at le
    rw [le_div_iff₀ unit, mul_comm]
    exact le_of_mul_le_mul_right le scale
  unfold decimalExponent
  generalize estimated : ((num.log2 : ℤ) - den.log2 - 1) * 30103 / 100000 = estimate
  dsimp only
  split
  · next reached => exact reaches (of_decide_eq_true reached)
  · split
    · next reached => exact reaches (of_decide_eq_true reached)
    · split
      · next reached => exact reaches (of_decide_eq_true reached)
      · rw [← estimated]
        exact (ten_le_two (by omega) (by omega)).trans (quotient_bounds first second).1.le

/-! ### Shortest decimals -/

theorem ratio_eq_size (x : Binary64) : (x.ratio.1 : ℚ) / x.ratio.2 = x.size := by
  have scale : (twoTo (-x.exponent).toNat : ℚ) ≠ 0 := Nat.cast_ne_zero.mpr (twoTo_pos _).ne'
  rw [ratio, Nat.cast_mul, twoTo_toNat, ← mul_assoc, mul_div_cancel_right₀ _ scale, size]

theorem exponent_le (finite : x.isFinite = true) : x.exponent ≤ 971 := by
  have small : x.magnitude < infiniteMagnitude := of_decide_eq_true finite
  unfold infiniteMagnitude fractionBound at small
  unfold exponent fractionBound
  omega

theorem decimalExponent_le_size (finite : x.isFinite = true) (positive : 0 < x.magnitude) :
    (10 : ℚ) ^ decimalExponent x.ratio.1 x.ratio.2 ≤ x.size := by
  have significant := significand_pos positive
  have first : 0 < x.ratio.1 := Nat.mul_pos significant (twoTo_pos _)
  have second : 0 < x.ratio.2 := twoTo_pos _
  have low : (2 : ℚ) ^ (-1074 : ℤ) ≤ x.size := by
    have one : (1 : ℚ) ≤ x.significand := by exact_mod_cast significant
    have unit : (2 : ℚ) ^ (-1074 : ℤ) ≤ 2 ^ x.exponent :=
      zpow_le_zpow_right₀ (by norm_num) (least_exponent x)
    exact unit.trans (le_mul_of_one_le_left (unit_pos x).le one)
  have high : x.size ≤ 2 ^ (1024 : ℤ) := by
    refine (size_le x).trans ?_
    rw [two_zpow_add]
    have le := exponent_le finite
    exact zpow_le_zpow_right₀ (by norm_num) (by push_cast; omega)
  have bounds := quotient_bounds first second
  rw [ratio_eq_size] at bounds
  have most := (zpow_lt_zpow_iff_right₀ (by norm_num : (1 : ℚ) < 2)).mp (bounds.1.trans_le high)
  have least := (zpow_lt_zpow_iff_right₀ (by norm_num : (1 : ℚ) < 2)).mp (low.trans_lt bounds.2)
  have le := le_of_decimalExponent first second (by omega) (by omega)
  rwa [ratio_eq_size] at le

/-- A binary number covers its shortest decimal. -/
theorem covers_shortest (tie : Tie) (finite : x.isFinite = true) (positive : 0 < x.magnitude) :
    x.Covers (x.shortest tie).value := by
  unfold shortest
  rw [Digits.value_strip]
  refine covers_searchGrids (significand_pos positive) 0 18 17 (by omega) (by omega) ?_
  -- 17 places behind the first digit are finer than 53 bits
  have top := (decimalExponent_le_size finite positive).trans (size_le x)
  rw [zpow_sub₀ (by norm_num), div_le_iff₀ (by norm_num)]
  refine top.trans ?_
  have unit := unit_pos x
  norm_num
  linarith

end Binary64

end Attest.Number
