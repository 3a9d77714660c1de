import Attest.Proofs.Number.Magnitude
import Attest.Proofs.Number.Values
import Mathlib.Algebra.Order.Ring.Pow
/-!
# Rounding to decimals

On its way to a decimal a magnitude first loses next to nothing, and then the places that a decimal
cannot hold. The places go one by one, which keeps order, leaves integers as they are, and moves a
number by no more than the last place that is left.
-/

namespace Attest.Number.Decimal

variable {s t : Scaled} {m n count limit : Nat} {p : Int}

def Scaled.value (s : Scaled) : ℚ :=
  s.magnitude * 10 ^ s.power

theorem Scaled.value_nonneg (s : Scaled) : 0 ≤ s.value :=
  mul_nonneg (Nat.cast_nonneg _) (zpow_pos (by norm_num) _).le

theorem ten_zpow_succ (p : Int) : (10 : ℚ) ^ (p + 1) = 10 * 10 ^ p := by
  rw [zpow_add_one₀ (by norm_num), mul_comm]

/-- A zero may be written behind the magnitude. -/
theorem value_times_ten (n : Nat) (p : Int) :
    Scaled.value ⟨n * 10, p - 1⟩ = Scaled.value ⟨n, p⟩ := by
  have power := ten_zpow_succ (p - 1)
  rw [Int.sub_add_cancel] at power
  rw [Scaled.value, Scaled.value, power, Nat.cast_mul, Nat.cast_ofNat]
  ring

/-! ### Halves to tenths -/

/-- What one factor of one half does. -/
def halved (s : Scaled) : Scaled :=
  if s.magnitude % 2 = 0 then ⟨s.magnitude / 2, s.power + 1⟩
  else if s.magnitude * 5 < coefficientBound then ⟨s.magnitude * 5, s.power⟩
  else ⟨s.magnitude / 2, s.power + 1⟩

theorem halvesToTenths_succ (count : Nat) (s : Scaled) :
    halvesToTenths (count + 1) s = halvesToTenths count (halved s) := rfl

/-- The part of a magnitude that one factor may lose, where multiplying by five overflows. -/
def leastLoss : ℚ := 5 / 2 ^ 96

theorem value_halved (s : Scaled) :
    (halved s).value ≤ s.value * 5 ∧ s.value * 5 * (1 - leastLoss) ≤ (halved s).value := by
  have power := ten_zpow_succ s.power
  have unit : (0 : ℚ) < 10 ^ s.power := zpow_pos (by norm_num) _
  have loss : 0 ≤ leastLoss := by unfold leastLoss; norm_num
  have exact (same : (halved s).value = s.value * 5) :
      (halved s).value ≤ s.value * 5 ∧ s.value * 5 * (1 - leastLoss) ≤ (halved s).value := by
    have lost : 0 ≤ s.value * 5 * leastLoss :=
      mul_nonneg (mul_nonneg s.value_nonneg (by norm_num)) loss
    rw [same]
    exact ⟨le_refl _, by linarith⟩
  by_cases even : s.magnitude % 2 = 0
  · apply exact
    have twice : (s.magnitude : ℚ) = 2 * (s.magnitude / 2 : Nat) := by
      exact_mod_cast (by omega : s.magnitude = 2 * (s.magnitude / 2))
    rw [halved, if_pos even, Scaled.value, Scaled.value, power, twice]
    ring
  · by_cases fits : s.magnitude * 5 < coefficientBound
    · apply exact
      rw [halved, if_neg even, if_pos fits, Scaled.value, Scaled.value, Nat.cast_mul,
        Nat.cast_ofNat]
      ring
    · have twice : (s.magnitude : ℚ) = 2 * (s.magnitude / 2 : Nat) + 1 := by
        exact_mod_cast (by omega : s.magnitude = 2 * (s.magnitude / 2) + 1)
      have large : (2 : ℚ) ^ 96 ≤ s.magnitude * 5 := by
        exact_mod_cast Nat.le_of_not_lt fits
      rw [halved, if_neg even, if_neg fits, Scaled.value, Scaled.value, power]
      constructor
      · rw [twice]
        linarith
      · have lost : 1 ≤ s.magnitude * leastLoss := by
          unfold leastLoss
          linarith
        have kept : (s.magnitude : ℚ) * 5 * (1 - leastLoss) ≤ (s.magnitude / 2 : Nat) * 10 := by
          linarith
        have scaled := mul_le_mul_of_nonneg_right kept unit.le
        linarith

theorem value_halvesToTenths (count : Nat) (s : Scaled) :
    (halvesToTenths count s).value ≤ s.value * 5 ^ count ∧
      s.value * 5 ^ count * (1 - leastLoss) ^ count ≤ (halvesToTenths count s).value := by
  have kept : 0 ≤ 1 - leastLoss := by unfold leastLoss; norm_num
  induction count generalizing s with
  | zero =>
    rw [halvesToTenths, pow_zero, pow_zero, mul_one, mul_one]
    exact ⟨le_refl _, le_refl _⟩
  | succ count ih =>
    obtain ⟨upper, lower⟩ := ih (halved s)
    obtain ⟨most, least⟩ := value_halved s
    have fives : (0 : ℚ) ≤ 5 ^ count := by positivity
    rw [halvesToTenths_succ]
    constructor
    · calc (halvesToTenths count (halved s)).value ≤ (halved s).value * 5 ^ count := upper
        _ ≤ s.value * 5 * 5 ^ count := mul_le_mul_of_nonneg_right most fives
        _ = s.value * 5 ^ (count + 1) := by ring
    · calc s.value * 5 ^ (count + 1) * (1 - leastLoss) ^ (count + 1)
          = s.value * 5 * (1 - leastLoss) * (5 ^ count * (1 - leastLoss) ^ count) := by ring
        _ ≤ (halved s).value * (5 ^ count * (1 - leastLoss) ^ count) :=
          mul_le_mul_of_nonneg_right least (mul_nonneg fives (pow_nonneg kept count))
        _ = (halved s).value * 5 ^ count * (1 - leastLoss) ^ count := by ring
        _ ≤ (halvesToTenths count (halved s)).value := lower

/-- Halves of an even magnitude are exact. -/
theorem halvesToTenths_of_multiple (count k : Nat) (p : Int) :
    halvesToTenths count ⟨k * 2 ^ count, p⟩ = ⟨k, p + count⟩ := by
  induction count generalizing p with
  | zero => simp [halvesToTenths]
  | succ count ih =>
    have twice : k * 2 ^ (count + 1) = 2 * (k * 2 ^ count) := by
      rw [Nat.pow_succ]
      ring
    have step : halved ⟨k * 2 ^ (count + 1), p⟩ = ⟨k * 2 ^ count, p + 1⟩ := by
      rw [halved, twice]
      dsimp only
      rw [if_pos (Nat.mul_mod_right 2 _), Nat.mul_div_cancel_left _ (by decide)]
    rw [halvesToTenths_succ, step, ih]
    congr 1
    push_cast
    ring

/-! ### Places, one by one -/

theorem tenth_mono (le : m ≤ n) : tenth m ≤ tenth n := by
  unfold tenth
  omega

theorem tenth_times_ten (n : Nat) : tenth (n * 10) = n := by
  unfold tenth
  omega

/-- A magnitude with `count` places dropped. -/
def shortened : Nat → Nat → Nat
  | 0, n => n
  | count + 1, n => if n < 10 then 0 else shortened count (tenth n)

theorem shortened_mono (count : Nat) (le : m ≤ n) : shortened count m ≤ shortened count n := by
  induction count generalizing m n with
  | zero => exact le
  | succ count ih =>
    rw [shortened, shortened]
    split
    · exact Nat.zero_le _
    · rw [if_neg (by omega)]
      exact ih (tenth_mono le)

theorem shortened_zero (count : Nat) : shortened count 0 = 0 := by
  cases count <;> rfl

theorem shortened_times_ten (count n : Nat) :
    shortened (count + 1) (n * 10) = shortened count n := by
  rw [shortened, tenth_times_ten]
  split
  · next small =>
    obtain rfl : n = 0 := by omega
    rw [shortened_zero]
  · rfl

theorem dropExcess_zero (limit : Nat) (p : Int) : dropExcess limit ⟨0, p⟩ = ⟨0, p⟩ := by
  cases limit with
  | zero => rfl
  | succ limit =>
    rw [dropExcess, if_neg]
    simp [Binary64.fractionBound]

theorem value_dropPlaces (limit count n : Nat) (p : Int) :
    (dropExcess limit (dropPlaces count ⟨n, p⟩)).value =
      (dropExcess limit ⟨shortened count n, p + count⟩).value := by
  induction count generalizing n p with
  | zero => simp [dropPlaces, shortened]
  | succ count ih =>
    rw [dropPlaces, shortened]
    dsimp only
    split
    · rw [dropExcess_zero, dropExcess_zero]
      simp [Scaled.value]
    · rw [ih]
      congr 3
      push_cast
      ring

/-! ### Excess digits -/

theorem dropExcess_of_small (limit : Nat) (small : n < Binary64.fractionBound) (p : Int) :
    dropExcess limit ⟨n, p⟩ = ⟨n, p⟩ := by
  cases limit with
  | zero => rfl
  | succ limit =>
    rw [dropExcess, if_neg]
    dsimp only
    omega

/-- The limit is none where it covers the places. -/
theorem dropExcess_limit (enough : -p ≤ limit) :
    dropExcess limit ⟨n, p⟩ = dropExcess (-p).toNat ⟨n, p⟩ := by
  induction limit generalizing n p with
  | zero => rw [Int.toNat_of_nonpos (by omega)]
  | succ limit ih =>
    by_cases places : p < 0
    · have count : (-p).toNat = (-(p + 1)).toNat + 1 := by omega
      rw [count, dropExcess, dropExcess]
      dsimp only
      split
      · exact ih (by omega)
      · rfl
    · rw [Int.toNat_of_nonpos (by omega), dropExcess, dropExcess, if_neg]
      dsimp only
      omega

theorem value_dropExcess_times_ten (places : p ≤ 0) (enough : 1 - p ≤ limit) :
    (dropExcess limit ⟨n * 10, p - 1⟩).value = (dropExcess limit ⟨n, p⟩).value := by
  have count : (-(p - 1)).toNat = (-p).toNat + 1 := by omega
  rw [dropExcess_limit (by omega), dropExcess_limit (p := p) (by omega), count, dropExcess]
  dsimp only
  split
  · rw [tenth_times_ten, Int.sub_add_cancel]
  · next small =>
    rw [dropExcess_of_small _ (by unfold Binary64.fractionBound at *; omega), value_times_ten]

theorem value_dropExcess_mono (limit : Nat) (le : m ≤ n) (p : Int) :
    (dropExcess limit ⟨m, p⟩).value ≤ (dropExcess limit ⟨n, p⟩).value := by
  have unit : (0 : ℚ) < 10 ^ p := zpow_pos (by norm_num) _
  have scaled {m n : Nat} (le : m ≤ n) : Scaled.value ⟨m, p⟩ ≤ Scaled.value ⟨n, p⟩ :=
    mul_le_mul_of_nonneg_right (Nat.cast_le.mpr le) unit.le
  induction limit generalizing m n p with
  | zero => exact scaled le
  | succ limit ih =>
    have next : (0 : ℚ) < 10 ^ (p + 1) := zpow_pos (by norm_num) _
    have scaledNext {m n : Nat} (le : m ≤ n) :
        Scaled.value ⟨m, p + 1⟩ ≤ Scaled.value ⟨n, p + 1⟩ :=
      mul_le_mul_of_nonneg_right (Nat.cast_le.mpr le) next.le
    rw [dropExcess, dropExcess]
    dsimp only
    by_cases large : p < 0 ∧ Binary64.fractionBound ≤ m
    · rw [if_pos large, if_pos ⟨large.1, Nat.le_trans large.2 le⟩]
      exact ih (tenth_mono le) (p + 1) next scaledNext
    · rw [if_neg large]
      split
      -- Only the greater one loses a place; a tenth of the least such magnitude is not less than
      -- a tenth of any smaller one.
      · next also =>
        have least : tenth Binary64.fractionBound < Binary64.fractionBound := by decide
        have below : m ≤ tenth Binary64.fractionBound * 10 := by
          have rounded : tenth Binary64.fractionBound * 10 = 4503599627370500 := by decide
          unfold Binary64.fractionBound at large also
          omega
        have written := value_times_ten (tenth Binary64.fractionBound) (p + 1)
        rw [Int.add_sub_cancel] at written
        calc Scaled.value ⟨m, p⟩ ≤ Scaled.value ⟨tenth Binary64.fractionBound * 10, p⟩ := scaled below
          _ = Scaled.value ⟨tenth Binary64.fractionBound, p + 1⟩ := written
          _ = (dropExcess limit ⟨tenth Binary64.fractionBound, p + 1⟩).value := by
            rw [dropExcess_of_small limit least]
          _ ≤ (dropExcess limit ⟨tenth n, p + 1⟩).value :=
            ih (tenth_mono also.2) (p + 1) next scaledNext
      · exact scaled le

/-! ### The value that is left -/

/-- What a magnitude becomes once the places are dropped that a decimal cannot hold. -/
def rounded (s : Scaled) : ℚ :=
  (dropExcess maxScale (dropPlaces (-maxScale - s.power).toNat s)).value

theorem rounded_eq (n : Nat) (p : Int) :
    rounded ⟨n, p⟩ = (dropExcess maxScale ⟨shortened (-maxScale - p).toNat n,
      p + (-maxScale - p).toNat⟩).value :=
  value_dropPlaces _ _ _ _

theorem rounded_mono_magnitude (le : m ≤ n) (p : Int) : rounded ⟨m, p⟩ ≤ rounded ⟨n, p⟩ := by
  rw [rounded_eq, rounded_eq]
  exact value_dropExcess_mono _ (shortened_mono _ le) _

theorem rounded_times_ten (n : Nat) (places : p ≤ 0) :
    rounded ⟨n * 10, p - 1⟩ = rounded ⟨n, p⟩ := by
  rw [rounded_eq, rounded_eq]
  unfold maxScale
  by_cases room : -28 < p
  · have noShift : (-(28 : Nat) - (p - 1)).toNat = 0 := by omega
    have noOtherShift : (-(28 : Nat) - p).toNat = 0 := by omega
    rw [noShift, noOtherShift, shortened, shortened, Nat.cast_zero, Int.add_zero, Int.add_zero]
    exact value_dropExcess_times_ten places (by omega)
  · have one : (-(28 : Nat) - (p - 1)).toNat = (-(28 : Nat) - p).toNat + 1 := by omega
    have power : p - 1 + ((-(28 : Nat) - p).toNat + 1 : Nat) = p + (-(28 : Nat) - p).toNat := by
      omega
    rw [one, shortened_times_ten, power]

/-- A magnitude may be written with more places. -/
theorem exists_aligned (places : s.power ≤ 0) (below : p ≤ s.power) :
    ∃ n, rounded ⟨n, p⟩ = rounded s ∧ Scaled.value ⟨n, p⟩ = s.value := by
  obtain ⟨j, rfl⟩ : ∃ j : Nat, p = s.power - j := ⟨(s.power - p).toNat, by omega⟩
  induction j with
  | zero => exact ⟨s.magnitude, by simp, by simp⟩
  | succ j ih =>
    obtain ⟨n, same, value⟩ := ih (by omega)
    have power : s.power - (j + 1 : Nat) = s.power - j - 1 := by omega
    refine ⟨n * 10, ?_, ?_⟩
    · rw [power, rounded_times_ten n (by omega), same]
    · rw [power, value_times_ten, value]

theorem rounded_mono (places : s.power ≤ 0) (alsoPlaces : t.power ≤ 0) (le : s.value ≤ t.value) :
    rounded s ≤ rounded t := by
  obtain ⟨m, first, value⟩ := exists_aligned places (min_le_left s.power t.power)
  obtain ⟨n, second, other⟩ := exists_aligned alsoPlaces (min_le_right s.power t.power)
  have unit : (0 : ℚ) < 10 ^ min s.power t.power := zpow_pos (by norm_num) _
  have less : m ≤ n := by
    rw [← value, ← other] at le
    exact Nat.cast_le.mp (le_of_mul_le_mul_right le unit)
  rw [← first, ← second]
  exact rounded_mono_magnitude less _

theorem rounded_nat (k : Nat) : rounded ⟨k, 0⟩ = k := by
  rw [rounded_eq]
  have noShift : (-(maxScale : Int) - 0).toNat = 0 := by decide
  have point : dropExcess maxScale ⟨k, 0⟩ = ⟨k, 0⟩ := by
    rw [maxScale, dropExcess, if_neg]
    dsimp only
    omega
  rw [noShift, shortened, Nat.cast_zero, Int.add_zero, point, Scaled.value]
  simp

/-- Integers lose nothing. -/
theorem rounded_of_whole {k : Nat} (places : s.power ≤ 0) (whole : s.value = k) : rounded s = k := by
  have same : s.value = Scaled.value ⟨k, 0⟩ := by rw [whole, Scaled.value]; simp
  rw [← rounded_nat k]
  exact le_antisymm (rounded_mono places (le_refl _) same.le)
    (rounded_mono (le_refl _) places same.ge)

/-! ### The distance -/

theorem shortened_of_multiple (count k : Nat) : shortened count (k * 10 ^ count) = k := by
  induction count with
  | zero => rw [Nat.pow_zero, Nat.mul_one, shortened]
  | succ count ih => rw [Nat.pow_succ, ← Nat.mul_assoc, shortened_times_ten, ih]

/-- The multiples on either side of a magnitude bound what is left of it. -/
theorem near_shortened (count n : Nat) :
    n ≤ shortened count n * 10 ^ count + 10 ^ count ∧
      shortened count n * 10 ^ count ≤ n + 10 ^ count := by
  have positive : 0 < 10 ^ count := Nat.pow_pos (by decide)
  have below : n / 10 ^ count * 10 ^ count ≤ n := Nat.div_mul_le_self _ _
  have above : n ≤ (n / 10 ^ count + 1) * 10 ^ count :=
    (Nat.lt_mul_of_div_lt (Nat.lt_succ_self _) positive).le
  have least := shortened_mono count below
  have most := shortened_mono count above
  rw [shortened_of_multiple] at least most
  have lower := Nat.mul_le_mul_right (10 ^ count) least
  have upper := Nat.mul_le_mul_right (10 ^ count) most
  rw [Nat.add_mul, Nat.one_mul] at above upper
  omega

theorem tenth_near (n : Nat) (p : Int) :
    |Scaled.value ⟨tenth n, p + 1⟩ - Scaled.value ⟨n, p⟩| ≤ 5 * 10 ^ p := by
  have unit : (0 : ℚ) < 10 ^ p := zpow_pos (by norm_num) _
  have lower : (n : ℚ) ≤ tenth n * 10 + 5 := by
    have le : n ≤ tenth n * 10 + 5 := by unfold tenth; omega
    exact_mod_cast le
  have upper : (tenth n * 10 : ℚ) ≤ n + 5 := by
    have le : tenth n * 10 ≤ n + 5 := by unfold tenth; omega
    exact_mod_cast le
  have below := mul_le_mul_of_nonneg_right lower unit.le
  have above := mul_le_mul_of_nonneg_right upper unit.le
  rw [Scaled.value, Scaled.value, ten_zpow_succ, abs_le]
  constructor <;> linarith

/-- What the places that were dropped add up to. -/
theorem near_dropExcess (limit : Nat) (s : Scaled) :
    9 * |(dropExcess limit s).value - s.value| ≤ 5 * (10 ^ (dropExcess limit s).power - 10 ^ s.power) := by
  induction limit generalizing s with
  | zero => simp [dropExcess]
  | succ limit ih =>
    rw [dropExcess]
    split
    · have later := ih ⟨tenth s.magnitude, s.power + 1⟩
      have first := tenth_near s.magnitude s.power
      have both := abs_sub_le (dropExcess limit ⟨tenth s.magnitude, s.power + 1⟩).value
        (Scaled.value ⟨tenth s.magnitude, s.power + 1⟩) s.value
      dsimp only at later
      rw [ten_zpow_succ] at later
      linarith
    · simp

/-- Places are dropped from great magnitudes only, which stay great. -/
theorem magnitude_dropExcess (limit : Nat) (s : Scaled) :
    dropExcess limit s = s ∨
      Binary64.fractionBound ≤ s.magnitude ∧
        Binary64.fractionBound ≤ 10 * (dropExcess limit s).magnitude := by
  induction limit generalizing s with
  | zero => exact .inl rfl
  | succ limit ih =>
    rw [dropExcess]
    split
    · next large =>
      refine .inr ⟨large.2, ?_⟩
      rcases ih ⟨tenth s.magnitude, s.power + 1⟩ with same | ⟨_, great⟩
      · rw [same]
        dsimp only
        unfold tenth
        unfold Binary64.fractionBound at *
        omega
      · exact great
    · exact .inl rfl

theorem abs_dropExcess (limit : Nat) (s : Scaled) :
    |(dropExcess limit s).value - s.value| ≤ s.value * (6 / 2 ^ 52) := by
  rcases magnitude_dropExcess limit s with same | ⟨_, great⟩
  · rw [same, sub_self, abs_zero]
    exact mul_nonneg s.value_nonneg (by norm_num)
  · have distance := near_dropExcess limit s
    generalize dropExcess limit s = r at *
    have unit : (0 : ℚ) < 10 ^ r.power := zpow_pos (by norm_num) _
    have smaller : (0 : ℚ) < 10 ^ s.power := zpow_pos (by norm_num) _
    have great : (2 : ℚ) ^ 52 ≤ 10 * r.magnitude := by exact_mod_cast great
    have bound : 2 ^ 52 * 10 ^ r.power ≤ 10 * r.value := by
      rw [Scaled.value, ← mul_assoc]
      exact mul_le_mul_of_nonneg_right great unit.le
    have reach := le_abs_self (r.value - s.value)
    linarith

theorem abs_shortened (n : Nat) (p : Int) :
    |Scaled.value ⟨shortened count n, p + count⟩ - Scaled.value ⟨n, p⟩| ≤ 10 ^ (p + count) := by
  have unit : (0 : ℚ) < 10 ^ p := zpow_pos (by norm_num) _
  have power : (10 : ℚ) ^ (p + count) = 10 ^ count * 10 ^ p := by
    rw [zpow_add₀ (by norm_num), zpow_natCast, mul_comm]
  obtain ⟨lower, upper⟩ := near_shortened count n
  have lower : (n : ℚ) ≤ shortened count n * 10 ^ count + 10 ^ count := by exact_mod_cast lower
  have upper : (shortened count n * 10 ^ count : ℚ) ≤ n + 10 ^ count := by exact_mod_cast upper
  have below := mul_le_mul_of_nonneg_right lower unit.le
  have above := mul_le_mul_of_nonneg_right upper unit.le
  rw [Scaled.value, Scaled.value, power, abs_le]
  constructor <;> linarith

/-- The places that are dropped first come to one in the last place, and the others only count for
magnitudes of 52 bits. -/
theorem abs_rounded (s : Scaled) : |rounded s - s.value| ≤ 1 / 10 ^ 28 + s.value * (7 / 2 ^ 52) := by
  obtain ⟨n, p⟩ := s
  have least : (10 : ℚ) ^ (-28 : Int) = 1 / 10 ^ 28 := by norm_num
  rw [rounded_eq]
  generalize countIs : (-(maxScale : Int) - p).toNat = count
  have first : |Scaled.value ⟨shortened count n, p + count⟩ - Scaled.value ⟨n, p⟩| ≤ 1 / 10 ^ 28 := by
    rcases Nat.eq_zero_or_pos count with rfl | places
    · simp [shortened]
    · have last : p + count = -28 := by
        unfold maxScale at countIs
        omega
      rw [← least, ← last]
      exact abs_shortened n p
  have second := abs_dropExcess maxScale ⟨shortened count n, p + count⟩
  have both := abs_sub_le (dropExcess maxScale ⟨shortened count n, p + count⟩).value
    (Scaled.value ⟨shortened count n, p + count⟩) (Scaled.value ⟨n, p⟩)
  have nonneg := Scaled.value_nonneg ⟨n, p⟩
  rcases magnitude_dropExcess maxScale ⟨shortened count n, p + count⟩ with same | ⟨great, _⟩
  · rw [same]
    linarith
  -- Excess digits are those of a number beside which one in the last place is little.
  · have great : (2 : ℚ) ^ 52 ≤ shortened count n := by exact_mod_cast great
    have unit : (1 : ℚ) / 10 ^ 28 ≤ 10 ^ (p + count) := by
      rw [← least]
      refine zpow_le_zpow_right₀ (by norm_num) ?_
      unfold maxScale at countIs
      omega
    have large : 2 ^ 52 * (1 / 10 ^ 28) ≤ Scaled.value ⟨shortened count n, p + count⟩ :=
      mul_le_mul great unit (by norm_num) (Nat.cast_nonneg _)
    have reach := (abs_le.mp first).2
    linarith

end Attest.Number.Decimal
