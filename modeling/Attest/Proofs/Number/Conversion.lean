import Attest.Proofs.Number.Rounding
/-!
# Numbers on their way to decimals

The magnitude of a binary number reaches the places that a decimal can hold almost as it was, and
that of an integer does exactly. Two magnitudes that differ keep their order on the way, and the
rounding that follows keeps it up to ties.
-/

namespace Attest.Number.Decimal

variable {x y : Binary64} {s t : Scaled} {p : Int} {u v : ℚ}

/-! ### The last zeros -/

theorem value_tenth {n : Nat} (multiple : n % 10 = 0) (p : Int) :
    Scaled.value ⟨n / 10, p + 1⟩ = Scaled.value ⟨n, p⟩ := by
  have written := value_times_ten (n / 10) (p + 1)
  rw [Int.add_sub_cancel, Nat.div_mul_cancel (Nat.dvd_of_mod_eq_zero multiple)] at written
  exact written.symm

theorem value_dropZeros (limit : Nat) (s : Scaled) : (dropZeros limit s).value = s.value := by
  induction limit generalizing s with
  | zero => rfl
  | succ limit ih =>
    rw [dropZeros]
    split
    · next zero => rw [ih, value_tenth zero.2]
    · rfl

theorem power_dropZeros (limit : Nat) (places : s.power ≤ 0) : (dropZeros limit s).power ≤ 0 := by
  induction limit generalizing s with
  | zero => exact places
  | succ limit ih =>
    rw [dropZeros]
    split
    · exact ih (by dsimp only; omega)
    · exact places

theorem power_dropExcess (limit : Nat) (places : s.power ≤ 0) : (dropExcess limit s).power ≤ 0 := by
  induction limit generalizing s with
  | zero => exact places
  | succ limit ih =>
    rw [dropExcess]
    split
    · exact ih (by dsimp only; omega)
    · exact places

theorem power_dropPlaces (count : Nat) (places : s.power + count ≤ 0) :
    (dropPlaces count s).power ≤ 0 := by
  induction count generalizing s with
  | zero =>
    rw [dropPlaces]
    omega
  | succ count ih =>
    rw [dropPlaces]
    split
    · exact le_refl _
    · exact ih (by dsimp only; omega)

/-- What is left once all the places are dropped that go. -/
def fitted (s : Scaled) : Scaled :=
  dropZeros maxScale (dropExcess maxScale (dropPlaces (-maxScale - s.power).toNat s))

theorem value_fitted (s : Scaled) : (fitted s).value = rounded s :=
  value_dropZeros _ _

theorem power_fitted (places : s.power ≤ 0) : (fitted s).power ≤ 0 := by
  refine power_dropZeros _ (power_dropExcess _ (power_dropPlaces _ ?_))
  unfold maxScale
  omega

/-! ### Before places are dropped -/

/-- The magnitude of a binary number as tens alone. -/
def inTens (x : Binary64) : Scaled :=
  if x.exponent < 0 then halvesToTenths x.exponent.natAbs ⟨x.significand, x.exponent⟩
  else twosToTens x.exponent.natAbs ⟨x.significand, x.exponent⟩

/-- The magnitude of a binary number with places alone, unless it is too great. -/
def unfitted? (x : Binary64) : Option Scaled :=
  (timesTens (inTens x).power.toNat (inTens x).magnitude).map (⟨·, min (inTens x).power 0⟩)

theorem unfitted?_of_magnitude (same : x.magnitude = y.magnitude) : unfitted? x = unfitted? y := by
  rw [unfitted?, unfitted?, inTens, inTens, Binary64.exponent_of_magnitude same,
    Binary64.significand_of_magnitude same]

theorem unfitted?_of_power (nonpositive : (inTens x).power ≤ 0) :
    unfitted? x = some (inTens x) := by
  rw [unfitted?, Int.toNat_of_nonpos nonpositive, timesTens, min_eq_left nonpositive]
  rfl

theorem ofBinary64?_eq (finite : x.isFinite = true) :
    ofBinary64? x = (unfitted? x).map fun s =>
      ofMagnitude x.isNegative (fitted s).magnitude (-(fitted s).power).toNat := by
  have room : (-(maxScale : Int) - (inTens x).power).toNat =
      (-(maxScale : Int) - min (inTens x).power 0).toNat := by
    unfold maxScale
    omega
  rw [ofBinary64?, finite, unfitted?, Option.map_map]
  show Option.map (fun magnitude => _) (timesTens (inTens x).power.toNat (inTens x).magnitude) = _
  congr 1
  funext n
  rw [Function.comp_apply, fitted, ← room]
  rfl

/-- The decimal of a binary number is its magnitude rounded, with its sign. -/
theorem ofBinary64?_of_unfitted (finite : x.isFinite = true) (given : unfitted? x = some s)
    (places : s.power ≤ 0) :
    ∃ d, ofBinary64? x = some d ∧ d.value = if x.isNegative then -rounded s else rounded s := by
  refine ⟨_, by rw [ofBinary64?_eq finite, given, Option.map_some], ?_⟩
  have nonpositive := power_fitted places
  have scale : -((-(fitted s).power).toNat : Int) = (fitted s).power := by omega
  rw [value_ofMagnitude, scale, ← value_fitted]
  show _ * (fitted s).value = _
  cases x.isNegative <;> simp

/-! ### How near the magnitude is -/

/-- A magnitude at a number or next below it, which keeps integers integers. -/
structure Approximates (s : Scaled) (v : ℚ) : Prop where
  places : s.power ≤ 0
  upper : s.value ≤ v
  near : v - s.value ≤ v / 2 ^ 80
  whole : ∀ k : ℕ, v = k → ∃ l : ℕ, s.value = l ∧ (k < coefficientBound → l = k)

theorem Approximates.of_eq (places : s.power ≤ 0) (exact : s.value = v) : Approximates s v where
  places := places
  upper := exact.le
  near := by
    have nonneg := s.value_nonneg
    rw [exact] at nonneg ⊢
    rw [sub_self]
    exact div_nonneg nonneg (by norm_num)
  whole k integer := ⟨k, exact.trans integer, fun _ => rfl⟩

theorem value_zero_power (k : Nat) : Scaled.value ⟨k, 0⟩ = k := by
  rw [Scaled.value, zpow_zero, mul_one]

/-- Each of at most 1074 factors loses next to nothing. -/
theorem near_of_loss {count : Nat} (few : count ≤ 1074) (nonneg : 0 ≤ v)
    (lower : v * (1 - leastLoss) ^ count ≤ u) : v - u ≤ v / 2 ^ 80 := by
  have loss : 1 + count * -leastLoss ≤ (1 + -leastLoss) ^ count :=
    one_add_mul_le_pow (by unfold leastLoss; norm_num) count
  have few : (count : ℚ) ≤ 1074 := by exact_mod_cast few
  have total : count * leastLoss ≤ 1 / 2 ^ 80 := by
    unfold leastLoss
    linarith
  have kept : 1 - 1 / 2 ^ 80 ≤ (1 - leastLoss) ^ count := by
    rw [← sub_eq_add_neg] at loss
    linarith
  have least := mul_le_mul_of_nonneg_left kept nonneg
  linarith

theorem approximates_of_fraction (fraction : x.exponent < 0) : Approximates (inTens x) x.size := by
  obtain ⟨count, exponent⟩ : ∃ count : Nat, x.exponent = -count := ⟨x.exponent.natAbs, by omega⟩
  have few : count ≤ 1074 := by
    have least := Binary64.least_exponent x
    omega
  have tens : inTens x = halvesToTenths count ⟨x.significand, -count⟩ := by
    rw [inTens, if_pos fraction, exponent, Int.natAbs_neg, Int.natAbs_natCast]
  have size : x.size = Scaled.value ⟨x.significand, -count⟩ * 5 ^ count := by
    rw [Binary64.size, exponent, Scaled.value, mul_assoc, zpow_neg, zpow_neg, zpow_natCast,
      zpow_natCast, inv_mul_eq_div, ← inv_div, ← div_pow]
    norm_num
  obtain ⟨upper, lower⟩ := value_halvesToTenths count ⟨x.significand, -count⟩
  rw [← size, ← tens] at upper lower
  refine ⟨?_, upper, near_of_loss few (Binary64.size_nonneg x) lower, ?_⟩
  · have power := power_halvesToTenths count ⟨x.significand, -count⟩
    rw [tens]
    dsimp only at power
    omega
  · intro k integer
    have multiple : x.significand = k * 2 ^ count := by
      rw [Binary64.size, exponent, zpow_neg, zpow_natCast, mul_inv_eq_iff_eq_mul₀ (by positivity)]
        at integer
      exact_mod_cast integer
    refine ⟨k, ?_, fun _ => rfl⟩
    rw [tens, multiple, halvesToTenths_of_multiple, Int.add_left_neg, value_zero_power]

/-- Great numbers are exact as long as they fit. -/
theorem inTens_of_integer {count : Nat} (exponent : x.exponent = count) (small : count ≤ 43) :
    inTens x = ⟨x.significand * 2 ^ count, 0⟩ := by
  rw [inTens, if_neg (by omega), exponent, Int.natAbs_natCast,
    twosToTens_of_lt count ⟨x.significand, count⟩ (significand_room x small)]
  dsimp only
  rw [Int.sub_self]

theorem size_of_integer {count : Nat} (exponent : x.exponent = count) :
    x.size = (x.significand * 2 ^ count : Nat) := by
  rw [Binary64.size, exponent, zpow_natCast]
  push_cast
  rfl

theorem value_inTens_of_integer {count : Nat} (exponent : x.exponent = count) (small : count ≤ 43) :
    (inTens x).value = x.size := by
  rw [inTens_of_integer exponent small, value_zero_power, size_of_integer exponent]

theorem fields_of_greatest (greatest : x.magnitude = greatestMagnitude) :
    x.exponent = (44 : Nat) ∧ x.significand = 2 ^ 52 := by
  rw [Binary64.exponent, Binary64.significand, greatest]
  decide

theorem size_of_greatest (greatest : x.magnitude = greatestMagnitude) : x.size = 2 ^ 96 := by
  obtain ⟨exponent, significand⟩ := fields_of_greatest greatest
  rw [size_of_integer exponent, significand]
  norm_num

theorem size_le_iff : x.size ≤ 2 ^ 96 ↔ x.magnitude ≤ greatestMagnitude := by
  have magnitude : (Binary64.ofMagnitude false greatestMagnitude).magnitude =
      greatestMagnitude := Binary64.magnitude_ofMagnitude (by decide)
  have order := Binary64.size_lt_iff
    (x := Binary64.ofMagnitude false greatestMagnitude) (y := x)
  rw [magnitude, size_of_greatest magnitude] at order
  rw [← not_lt, order, not_lt]

/-- Six below `2 ^ 96`, which is divided by five once. -/
def nextToBound : Nat := coefficientBound - 6

theorem unfitted?_of_greatest (greatest : x.magnitude = greatestMagnitude) :
    unfitted? x = some ⟨nextToBound, 0⟩ := by
  obtain ⟨exponent, significand⟩ := fields_of_greatest greatest
  have tens : inTens x = twosToTens 44 ⟨2 ^ 52, (44 : Nat)⟩ := by
    rw [inTens, exponent, significand, if_neg (by decide), Int.natAbs_natCast]
  have power : (twosToTens 44 ⟨2 ^ 52, (44 : Nat)⟩).power = 1 := by decide +kernel
  have magnitude : (twosToTens 44 ⟨2 ^ 52, (44 : Nat)⟩).magnitude = nextToBound / 10 := by
    decide +kernel
  rw [unfitted?, tens, power, magnitude]
  rfl

theorem approximates_greatest : Approximates ⟨nextToBound, 0⟩ (2 ^ 96) where
  places := le_refl _
  upper := by
    rw [value_zero_power]
    norm_num [nextToBound, coefficientBound]
  near := by
    rw [value_zero_power]
    norm_num [nextToBound, coefficientBound]
  whole k integer := by
    refine ⟨nextToBound, value_zero_power _, fun small => ?_⟩
    have large : k = coefficientBound := by exact_mod_cast integer.symm
    exact absurd large small.ne

inductive Extent (x : Binary64) : Prop
  | fraction (negative : x.exponent < 0)
  | integer (count : Nat) (exponent : x.exponent = count) (small : count ≤ 43)
  | greatest (same : x.magnitude = greatestMagnitude)

theorem extent_of_small (small : x.magnitude ≤ greatestMagnitude) : Extent x := by
  by_cases negative : x.exponent < 0
  · exact .fraction negative
  · rcases Nat.eq_or_lt_of_le small with same | less
    · exact .greatest same
    · refine .integer x.exponent.toNat (by omega) ?_
      unfold greatestMagnitude Binary64.fractionBound at less
      unfold Binary64.exponent Binary64.fractionBound
      omega

theorem exists_unfitted (small : x.magnitude ≤ greatestMagnitude) :
    ∃ s, unfitted? x = some s ∧ Approximates s x.size := by
  cases extent_of_small small with
  | fraction negative =>
    have near := approximates_of_fraction negative
    exact ⟨_, unfitted?_of_power near.places, near⟩
  | integer count exponent few =>
    have places : (inTens x).power ≤ 0 := by rw [inTens_of_integer exponent few]
    exact ⟨_, unfitted?_of_power places, .of_eq places (value_inTens_of_integer exponent few)⟩
  | greatest same =>
    refine ⟨_, unfitted?_of_greatest same, ?_⟩
    rw [size_of_greatest same]
    exact approximates_greatest

/-! ### Two magnitudes -/

/-- What the magnitude of a number is before places are dropped: of an integer of 64 bits, or of a
binary number with a decimal. -/
inductive Converts : ℚ → Scaled → Prop
  | integer (n : Nat) (wide : n ≤ 2 ^ 63) : Converts n ⟨n, 0⟩
  | binary {x : Binary64} {s : Scaled} (small : x.magnitude ≤ greatestMagnitude)
      (given : unfitted? x = some s) : Converts x.size s

theorem Converts.approximates (converts : Converts v s) : Approximates s v := by
  cases converts with
  | integer n wide => exact .of_eq (le_refl _) (value_zero_power n)
  | binary small given =>
    obtain ⟨t, also, near⟩ := exists_unfitted small
    obtain rfl := Option.some.inj (given.symm.trans also)
    exact near

theorem Converts.nonneg (converts : Converts v s) : 0 ≤ v :=
  s.value_nonneg.trans converts.approximates.upper

theorem Approximates.above_of_gap (near : Approximates t u) (positive : 0 < u)
    (gap : v + u / 2 ^ 54 ≤ u) : v < t.value := by
  have bound := near.near
  linarith

/-- A number is below what a greater one has become. -/
theorem Converts.lt_value (first : Converts v s) (second : Converts u t) (less : v < u) :
    v < t.value := by
  have near := second.approximates
  cases second with
  | integer n wide => rwa [value_zero_power]
  | @binary y t small given =>
    cases extent_of_small small with
    | integer count exponent few =>
      have places : (inTens y).power ≤ 0 := by rw [inTens_of_integer exponent few]
      rw [unfitted?_of_power places] at given
      obtain rfl := Option.some.inj given
      rwa [value_inTens_of_integer exponent few]
    | fraction negative =>
      refine near.above_of_gap (lt_of_le_of_lt first.nonneg less) ?_
      cases first with
      -- Below one every unit divides the integers.
      | integer n wide =>
        obtain ⟨count, exponent⟩ : ∃ count : Nat, y.exponent = -count := ⟨y.exponent.natAbs, by omega⟩
        have multiple : (n : ℚ) = (n * 2 ^ count : Nat) * 2 ^ y.exponent := by
          rw [exponent, zpow_neg, zpow_natCast]
          push_cast
          rw [mul_inv_cancel_right₀ (by positivity)]
        rw [multiple] at less ⊢
        exact Binary64.gap_of_multiple less
      | binary _ _ => exact Binary64.gap_of_magnitude (Binary64.size_lt_iff.mp less)
    | greatest same =>
      refine near.above_of_gap (lt_of_le_of_lt first.nonneg less) ?_
      cases first with
      | integer n wide =>
        have wide : (n : ℚ) ≤ 2 ^ 63 := by exact_mod_cast wide
        rw [size_of_greatest same]
        linarith
      | binary _ _ => exact Binary64.gap_of_magnitude (Binary64.size_lt_iff.mp less)

/-- Nothing is lost of integers, so that their order is strict. -/
theorem Converts.rounded_lt (first : Converts v s) (second : Converts u t) (less : v < u)
    {j k : Nat} (whole : v = j) (alsoWhole : u = k) : rounded s < rounded t := by
  obtain ⟨l, value, _⟩ := first.approximates.whole j whole
  obtain ⟨m, other, _⟩ := second.approximates.whole k alsoWhole
  rw [rounded_of_whole first.approximates.places value,
    rounded_of_whole second.approximates.places other, ← value, ← other]
  exact lt_of_le_of_lt first.approximates.upper (first.lt_value second less)

theorem Converts.rounded_of_integer (converts : Converts v s) {k : Nat} (whole : v = k)
    (small : k < coefficientBound) : rounded s = k := by
  obtain ⟨l, value, exact⟩ := converts.approximates.whole k whole
  rw [rounded_of_whole converts.approximates.places value, exact small]

theorem Converts.rounded_eq (first : Converts v s) (second : Converts u t) (same : v = u) :
    rounded s = rounded t := by
  have integer {n : Nat} (wide : n ≤ 2 ^ 63) : n < coefficientBound :=
    Nat.lt_of_le_of_lt wide (by decide)
  cases first with
  | integer n wide =>
    rw [second.rounded_of_integer same.symm (integer wide)]
    exact rounded_nat n
  | binary small given =>
    cases second with
    | integer n wide =>
      rw [rounded_nat n]
      exact (Converts.binary small given).rounded_of_integer same (integer wide)
    | binary alsoSmall alsoGiven =>
      rw [unfitted?_of_magnitude (Binary64.size_eq_iff.mp same), alsoGiven] at given
      rw [Option.some.inj given]

theorem Converts.rounded_le (first : Converts v s) (second : Converts u t) (le : v ≤ u) :
    rounded s ≤ rounded t := by
  have near := first.approximates
  rcases eq_or_lt_of_le le with same | less
  · exact (first.rounded_eq second same).le
  · refine rounded_mono near.places second.approximates.places ?_
    exact near.upper.trans (first.lt_value second less).le

theorem Converts.abs_rounded (converts : Converts v s) :
    |rounded s - v| ≤ 1 / 10 ^ 28 + v * (8 / 2 ^ 52) := by
  have near := converts.approximates
  have distance := abs_le.mp (Decimal.abs_rounded s)
  have bound := near.near
  have upper := near.upper
  have nonneg := s.value_nonneg
  rw [abs_le]
  constructor <;> linarith

/-! ### Signs -/

/-- The magnitude of a number is rounded, and the sign is kept. -/
inductive Rounds : ℚ → ℚ → Prop
  | positive {v : ℚ} {s : Scaled} (converts : Converts v s) : Rounds v (rounded s)
  | negative {v : ℚ} {s : Scaled} (converts : Converts v s) : Rounds (-v) (-rounded s)

theorem Rounds.integer {n : ℤ} (wide : n.natAbs ≤ 2 ^ 63) : Rounds n n := by
  have magnitude := Converts.integer n.natAbs wide
  rcases Int.natAbs_eq n with positive | negative
  · have value : ((n.natAbs : ℕ) : ℚ) = n := by
      rw [← Int.cast_natCast, ← positive]
    have rounds := Rounds.positive magnitude
    rwa [rounded_nat, value] at rounds
  · have value : -((n.natAbs : ℕ) : ℚ) = n := by
      rw [← Int.cast_natCast, ← Int.cast_neg, ← negative]
    have rounds := Rounds.negative magnitude
    rwa [rounded_nat, value] at rounds

theorem Converts.zero : Converts 0 ⟨0, 0⟩ := by
  have zero := Converts.integer 0 (by decide)
  rwa [Nat.cast_zero] at zero

theorem rounded_zero : rounded ⟨0, 0⟩ = 0 := by
  rw [rounded_nat, Nat.cast_zero]

theorem Converts.rounded_nonneg (converts : Converts v s) : 0 ≤ rounded s := by
  have le := Converts.zero.rounded_le converts converts.nonneg
  rwa [rounded_zero] at le

theorem Converts.rounded_nonpos (converts : Converts v s) (nonpositive : v ≤ 0) : rounded s ≤ 0 := by
  have le := converts.rounded_le Converts.zero nonpositive
  rwa [rounded_zero] at le

theorem Converts.rounded_pos (converts : Converts v s) (positive : 0 < v) {k : Nat}
    (whole : v = k) : 0 < rounded s := by
  have less := Converts.zero.rounded_lt converts positive Nat.cast_zero.symm whole
  rwa [rounded_zero] at less

theorem Converts.exists_nat (converts : Converts v s) {k : ℤ} (whole : v = k) : ∃ n : ℕ, v = n := by
  have nonneg := converts.nonneg
  rw [whole] at nonneg ⊢
  exact ⟨k.toNat, by exact_mod_cast (Int.toNat_of_nonneg (by exact_mod_cast nonneg)).symm⟩

section

variable {p q d e : ℚ}

theorem Rounds.le (first : Rounds p d) (second : Rounds q e) (le : p ≤ q) : d ≤ e := by
  cases first with
  | positive first =>
    cases second with
    | positive second => exact first.rounded_le second le
    -- Here both are zero.
    | negative second =>
      have nonneg := first.nonneg
      have alsoNonneg := second.nonneg
      have below := first.rounded_nonpos (by linarith)
      have alsoBelow := second.rounded_nonpos (by linarith)
      linarith
  | negative first =>
    cases second with
    | positive second =>
      have nonneg := first.rounded_nonneg
      have alsoNonneg := second.rounded_nonneg
      linarith
    | negative second => exact neg_le_neg (second.rounded_le first (neg_le_neg_iff.mp le))

theorem Rounds.eq (first : Rounds p d) (second : Rounds q e) (same : p = q) : d = e :=
  le_antisymm (first.le second same.le) (second.le first same.ge)

/-- Integers stay apart. -/
theorem Rounds.lt (first : Rounds p d) (second : Rounds q e) (less : p < q) {j k : ℤ}
    (whole : p = j) (alsoWhole : q = k) : d < e := by
  cases first with
  | positive first =>
    obtain ⟨m, natural⟩ := first.exists_nat whole
    cases second with
    | positive second =>
      obtain ⟨n, alsoNatural⟩ := second.exists_nat alsoWhole
      exact first.rounded_lt second less natural alsoNatural
    | negative second =>
      have nonneg := first.nonneg
      have alsoNonneg := second.nonneg
      linarith
  | @negative v s first =>
    obtain ⟨m, natural⟩ := first.exists_nat (k := -j) (by push_cast; linarith)
    cases second with
    | positive second =>
      obtain ⟨n, alsoNatural⟩ := second.exists_nat alsoWhole
      have nonneg := first.rounded_nonneg
      have alsoNonneg := second.rounded_nonneg
      -- Between two integers with zero between them, one is not zero.
      rcases lt_or_ge 0 v with apart | zero
      · have positive := first.rounded_pos apart natural
        linarith
      · have positive := second.rounded_pos (by linarith) alsoNatural
        linarith
    | negative second =>
      obtain ⟨n, alsoNatural⟩ := second.exists_nat (k := -k) (by push_cast; linarith)
      exact neg_lt_neg (second.rounded_lt first (neg_lt_neg_iff.mp less) alsoNatural natural)

theorem Rounds.near (rounds : Rounds p d) : |d - p| ≤ 1 / 10 ^ 28 + |p| * (8 / 2 ^ 52) := by
  cases rounds with
  | positive converts =>
    rw [abs_of_nonneg converts.nonneg]
    exact converts.abs_rounded
  | negative converts =>
    rw [abs_neg, abs_of_nonneg converts.nonneg, ← neg_sub_neg, neg_neg, neg_neg, abs_sub_comm]
    exact converts.abs_rounded

end

end Attest.Number.Decimal
