import Attest.Number.Decimal
import Mathlib.Algebra.Field.Rat
import Mathlib.Algebra.Order.Field.Power
import Mathlib.Algebra.Order.Ring.Rat
import Mathlib.Order.Compare
/-!
# Values of decimals

Decimals are compared by the rational numbers that they denote. A binary number has a decimal or
none by its magnitude alone, and each binary number that an integer of 64 bits rounds to has one.
-/

namespace Attest.Number

theorem tenTo_pos (n : Nat) : 0 < tenTo n :=
  Nat.pow_pos (by decide)

/-- Two comparisons that agree case by case. -/
theorem compare_congr {α β : Type} [LinearOrder α] [LinearOrder β] {a b : α} {c d : β}
    (lt : a < b → c < d) (eq : a = b → c = d) (gt : b < a → d < c) : compare c d = compare a b := by
  rcases lt_trichotomy a b with less | same | greater
  · rw [compare_lt_iff_lt.mpr less, compare_lt_iff_lt.mpr (lt less)]
  · rw [compare_eq_iff_eq.mpr same, compare_eq_iff_eq.mpr (eq same)]
  · rw [compare_gt_iff_gt.mpr greater, compare_gt_iff_gt.mpr (gt greater)]

namespace Binary64

variable {x y : Binary64}

theorem exponent_of_magnitude (same : x.magnitude = y.magnitude) : x.exponent = y.exponent := by
  rw [exponent, exponent, same]

theorem significand_of_magnitude (same : x.magnitude = y.magnitude) :
    x.significand = y.significand := by
  rw [significand, significand, same]

theorem significand_lt (x : Binary64) : x.significand < 2 ^ 53 := by
  have fraction : x.magnitude % fractionBound < fractionBound := Nat.mod_lt _ (by decide)
  have bound : fractionBound + fractionBound = 2 ^ 53 := by decide
  unfold significand
  dsimp only
  split <;> omega

end Binary64

namespace Decimal

/-- The number that a decimal denotes. -/
def value (d : Decimal) : ℚ :=
  d.coefficient / tenTo d.scale

theorem value_eq (d : Decimal) : d.value = d.coefficient * 10 ^ (-(d.scale : ℤ)) := by
  have power : ((tenTo d.scale : Nat) : ℚ) = 10 ^ d.scale := Nat.cast_pow 10 d.scale
  rw [value, power, zpow_neg, zpow_natCast, div_eq_mul_inv]

theorem value_ofMagnitude (negative : Bool) (coefficient scale : Nat) :
    (ofMagnitude negative coefficient scale).value =
      (if negative then -1 else 1) * (coefficient * 10 ^ (-(scale : ℤ))) := by
  rw [value_eq, ofMagnitude]
  cases negative <;> simp

theorem value_ofInt (n : Int) : (ofInt n).value = n := by
  rw [value, ofInt, tenTo, Nat.pow_eq, Nat.pow_zero, Nat.cast_one, div_one]

theorem same_iff {a b : Decimal} : a.same b = true ↔ a.value = b.value := by
  have ha : (tenTo a.scale : ℚ) ≠ 0 := Nat.cast_ne_zero.mpr (tenTo_pos _).ne'
  have hb : (tenTo b.scale : ℚ) ≠ 0 := Nat.cast_ne_zero.mpr (tenTo_pos _).ne'
  rw [same, beq_iff_eq, value, value, div_eq_div_iff ha hb]
  constructor
  · intro same
    exact_mod_cast same
  · intro same
    exact_mod_cast same

theorem order_compares (a b : Decimal) : (a.order b).Compares a.value b.value := by
  have ha : (0 : ℚ) < tenTo a.scale := Nat.cast_pos.mpr (tenTo_pos _)
  have hb : (0 : ℚ) < tenTo b.scale := Nat.cast_pos.mpr (tenTo_pos _)
  have crossed :
      (a.order b).Compares (a.coefficient * tenTo b.scale) (b.coefficient * tenTo a.scale) :=
    (compare_iff _ _).mp rfl
  unfold value
  generalize a.order b = o at crossed ⊢
  cases o with
  | lt =>
    apply (div_lt_div_iff₀ ha hb).mpr
    exact_mod_cast crossed
  | eq =>
    apply (div_eq_div_iff ha.ne' hb.ne').mpr
    exact_mod_cast crossed
  | gt =>
    apply (div_lt_div_iff₀ hb ha).mpr
    exact_mod_cast crossed

/-! ### Binary numbers with a decimal -/

theorem power_halvesToTenths (count : Nat) (s : Scaled) :
    (halvesToTenths count s).power ≤ s.power + count := by
  induction count generalizing s with
  | zero =>
    rw [halvesToTenths]
    omega
  | succ count ih =>
    rw [halvesToTenths]
    split
    · have later := ih ⟨s.magnitude / 2, s.power + 1⟩
      dsimp only at later
      omega
    · split
      · have later := ih ⟨s.magnitude * 5, s.power⟩
        dsimp only at later
        omega
      · have later := ih ⟨s.magnitude / 2, s.power + 1⟩
        dsimp only at later
        omega

/-- Factors of two are multiplied in as long as there is room for them. -/
theorem twosToTens_of_lt (count : Nat) (s : Scaled)
    (room : s.magnitude * 2 ^ count < coefficientBound) :
    twosToTens count s = ⟨s.magnitude * 2 ^ count, s.power - count⟩ := by
  induction count generalizing s with
  | zero => simp [twosToTens]
  | succ count ih =>
    have product : s.magnitude * 2 * 2 ^ count = s.magnitude * 2 ^ (count + 1) := by
      rw [Nat.mul_assoc, ← Nat.pow_succ']
    have inner : s.magnitude * 2 * 2 ^ count < coefficientBound := by rwa [product]
    have fits : s.magnitude * 2 < coefficientBound :=
      Nat.lt_of_le_of_lt (Nat.le_mul_of_pos_right _ (Nat.two_pow_pos count)) inner
    rw [twosToTens, if_pos fits, ih ⟨s.magnitude * 2, s.power - 1⟩ inner]
    dsimp only
    rw [product]
    congr 1
    omega

theorem isSome_ofBinary64? {x y : Binary64} (same : x.magnitude = y.magnitude) :
    (ofBinary64? x).isSome = (ofBinary64? y).isSome := by
  have finite : x.isFinite = y.isFinite := by rw [Binary64.isFinite, Binary64.isFinite, same]
  rw [ofBinary64?, ofBinary64?, finite, Binary64.exponent_of_magnitude same,
    Binary64.significand_of_magnitude same]
  split
  · rfl
  · rw [Option.isSome_map, Option.isSome_map]

/-- Great numbers up to `2 ^ 96` have room below the bound. -/
theorem significand_room (x : Binary64) {count : Nat} (small : count ≤ 43) :
    x.significand * 2 ^ count < coefficientBound := by
  have factor : 2 ^ count ≤ 2 ^ 43 := Nat.pow_le_pow_right (by decide) small
  have product : x.significand * 2 ^ count < 2 ^ 53 * 2 ^ 43 :=
    Nat.mul_lt_mul_of_lt_of_le x.significand_lt factor (by decide)
  exact product

theorem isSome_of_exponent_le {x : Binary64} (small : x.exponent ≤ 43) :
    (ofBinary64? x).isSome = true := by
  have finite : x.isFinite = true := by
    rw [Binary64.isFinite, decide_eq_true_iff]
    unfold Binary64.exponent Binary64.fractionBound at small
    unfold Binary64.infiniteMagnitude Binary64.fractionBound
    omega
  have noTens : ∀ n, (timesTens 0 n).isSome := fun n => rfl
  rw [ofBinary64?, finite]
  dsimp only
  rw [if_neg (by simp), Option.isSome_map]
  split
  · next negative =>
    have power := power_halvesToTenths x.exponent.natAbs ⟨x.significand, x.exponent⟩
    dsimp only at power
    rw [Int.toNat_of_nonpos (by omega)]
    exact noTens _
  · next positive =>
    have small : x.exponent.natAbs ≤ 43 := by omega
    have room := significand_room x small
    rw [twosToTens_of_lt _ ⟨x.significand, x.exponent⟩ room]
    dsimp only
    rw [Int.toNat_of_nonpos (by omega)]
    exact noTens _

end Decimal

/-! ### Integers as binary numbers -/

namespace Binary64

theorem magnitude_ofMagnitude {negative : Bool} {m : Nat} (small : m < signBit) :
    (ofMagnitude negative m).magnitude = m := by
  unfold ofMagnitude magnitude
  rw [UInt64.toNat_ofNat']
  unfold signBit at small ⊢
  cases negative
  · rw [if_neg (by simp)]
    omega
  · rw [if_pos rfl]
    omega

theorem roundQuotient_le (num den : Nat) : roundQuotient num den ≤ num / den + 1 := by
  unfold roundQuotient
  dsimp only
  split
  · omega
  · split <;> omega

theorem quotientExponent_one (n : Nat) :
    (n.log2 : Int) - 53 ≤ quotientExponent n 1 ∧ quotientExponent n 1 ≤ n.log2 - 52 := by
  have zero : Nat.log2 1 = 0 := by decide
  unfold quotientExponent
  rw [zero]
  dsimp only
  split <;> omega

theorem rounded_le (n : Nat) (e : Int) (enough : (n.log2 : Int) - 53 ≤ e) :
    roundQuotient (n * twoTo (-e).toNat) (1 * twoTo e.toNat) ≤ 2 ^ 54 := by
  have quotient : n * 2 ^ (-e).toNat / 2 ^ e.toNat < 2 ^ 54 := by
    have bits : 2 ^ (n.log2 + 1) * 2 ^ (-e).toNat ≤ 2 ^ e.toNat * 2 ^ 54 := by
      rw [← Nat.pow_add, ← Nat.pow_add]
      exact Nat.pow_le_pow_right (by decide) (by omega)
    have less : n * 2 ^ (-e).toNat < 2 ^ (n.log2 + 1) * 2 ^ (-e).toNat :=
      Nat.mul_lt_mul_of_pos_right Nat.lt_log2_self (Nat.two_pow_pos _)
    exact Nat.div_lt_of_lt_mul (Nat.lt_of_lt_of_le less bits)
  have rounded := roundQuotient_le (n * twoTo (-e).toNat) (1 * twoTo e.toNat)
  rw [Nat.one_mul] at rounded ⊢
  exact Nat.le_trans rounded quotient

/-- An integer of 64 bits is rounded to a number well below `2 ^ 67`. -/
theorem magnitude_ofInt_le {n : Int} (wide : n.natAbs ≤ 2 ^ 63) :
    (ofInt n).magnitude ≤ 1089 * fractionBound := by
  unfold ofInt ofRatio
  split
  · rw [magnitude_ofMagnitude (by decide)]
    exact Nat.zero_le _
  · next positive =>
    have less : n.natAbs < 2 ^ 64 := Nat.lt_of_le_of_lt wide (by decide)
    have log : n.natAbs.log2 < 64 := (Nat.log2_lt positive).mpr less
    obtain ⟨lower, upper⟩ := quotientExponent_one n.natAbs
    have rounded := rounded_le n.natAbs _ lower
    dsimp only
    generalize quotientExponent n.natAbs 1 = e at *
    generalize roundQuotient _ _ = r at *
    have bound : (e + 1074).toNat * fractionBound + r ≤ 1089 * fractionBound := by
      unfold fractionBound
      omega
    have small : min ((e + 1074).toNat * fractionBound + r) infiniteMagnitude < signBit := by
      unfold signBit
      unfold fractionBound at *
      omega
    rw [magnitude_ofMagnitude small]
    exact Nat.le_trans (Nat.min_le_left _ _) bound

/-! ### Comparison -/

theorem natAbs_orderKey (x : Binary64) : x.orderKey.natAbs = x.magnitude := by
  unfold orderKey
  split <;> omega

theorem compare?_eq_some_iff {x y : Binary64} {o : Ordering} :
    x.compare? y = some o ↔
      x.isNaN = false ∧ y.isNaN = false ∧ compare x.orderKey y.orderKey = o := by
  unfold compare?
  cases x.isNaN
  · cases y.isNaN
    · simp
    · simp
  · simp

theorem compare?_eq_iff {x y : Binary64} :
    x.compare? y = some .eq ↔ x.isNaN = false ∧ y.isNaN = false ∧ x.orderKey = y.orderKey := by
  rw [compare?_eq_some_iff, compare_eq_iff_eq]

/-- Equal binary numbers have both a decimal or both none. -/
theorem isSome_of_orderKey {x y : Binary64} (same : x.orderKey = y.orderKey) :
    (Decimal.ofBinary64? x).isSome = (Decimal.ofBinary64? y).isSome := by
  have magnitude : x.magnitude = y.magnitude := by
    rw [← natAbs_orderKey, ← natAbs_orderKey, same]
  exact Decimal.isSome_ofBinary64? magnitude

theorem isSome_ofBinary64?_ofInt {n : Int} (wide : n.natAbs ≤ 2 ^ 63) :
    (Decimal.ofBinary64? (ofInt n)).isSome = true := by
  have bound := magnitude_ofInt_le wide
  apply Decimal.isSome_of_exponent_le
  unfold exponent
  unfold fractionBound at *
  omega

end Binary64

end Attest.Number
