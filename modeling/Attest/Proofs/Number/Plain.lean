import Attest.Language.Literal
import Attest.Proofs.Number.Shortest
/-!
# Plain numbers

Literal numbers are written without an exponent from `1e-4` on and below `1e16`. Each bound is next
to a binary number that has it as its shortest decimal, so decimals are on the side of their numbers.
-/

namespace Attest.Number

/-! ### Places of the point -/

namespace Digits

/-- A power of ten is above the value if the point stands no further right there. -/
theorem value_lt_iff_length {d : Digits} (positive : 0 < d.digits) (m : ℤ) :
    d.value < 10 ^ m ↔ (Nat.toDigits 10 d.digits).length + d.exponent ≤ m := by
  have unit : (0 : ℚ) < 10 ^ d.exponent := zpow_pos (by norm_num) _
  have scaled : d.value < 10 ^ m ↔ (d.digits : ℚ) < 10 ^ (m - d.exponent) := by
    rw [value, zpow_sub₀ (by norm_num), lt_div_iff₀ unit]
  have nonempty := Nat.length_toDigits_pos (b := 10) (n := d.digits)
  rw [scaled]
  rcases lt_or_ge 0 (m - d.exponent) with whole | fractional
  · obtain ⟨k, same⟩ := Int.eq_ofNat_of_zero_le whole.le
    have least : 0 < k := by omega
    have length := Nat.length_toDigits_le_iff (b := 10) (n := d.digits) (by decide) least
    rw [same, zpow_natCast]
    have cast : (d.digits : ℚ) < 10 ^ k ↔ d.digits < 10 ^ k := by exact_mod_cast Iff.rfl
    rw [cast, ← length]
    omega
  · refine iff_of_false (not_lt.mpr ?_) (by omega)
    have one : (1 : ℚ) ≤ d.digits := by exact_mod_cast positive
    exact (zpow_le_one_of_nonpos₀ (by norm_num) fractional).trans one

end Digits

/-! ### Bounds -/

namespace Binary64

variable {x : Binary64}

theorem ofMagnitude_magnitude (x : Binary64) : ofMagnitude x.isNegative x.magnitude = x := by
  obtain ⟨bits⟩ := x
  have bound := bits.toNat_lt
  refine congrArg mk (UInt64.toNat_inj.mp ?_)
  rw [UInt64.toNat_ofNat']
  unfold isNegative magnitude signBit
  dsimp only
  split
  · next negative =>
    have large := of_decide_eq_true negative
    omega
  · next positive =>
    have small : bits.toNat < 9223372036854775808 := by simpa using positive
    omega

/-- The number `10 ^ 16`, the least that is no longer plain. -/
def plainBound : Binary64 := ⟨0x4341C37937E08000⟩

/-- The number nearest to `1e-4`, the least plain one. -/
def leastPlain : Binary64 := ⟨0x3F1A36E2EB1C432D⟩

theorem size_plainBound : plainBound.size = 10 ^ 16 := by
  have significand : plainBound.significand = 5000000000000000 := by decide
  have exponent : plainBound.exponent = 1 := by decide
  rw [size, significand, exponent]
  norm_num

theorem significand_leastPlain : leastPlain.significand = 7378697629483821 := by decide

theorem exponent_leastPlain : leastPlain.exponent = -66 := by decide

theorem le_size_leastPlain : 1 / 10 ^ 4 ≤ leastPlain.size := by
  rw [size, significand_leastPlain, exponent_leastPlain]
  norm_num

theorem lowerEnd_leastPlain : leastPlain.lowerEnd < 1 / 10 ^ 4 := by
  have gap : leastPlain.lowerGap = 2 := by decide
  rw [lowerEnd, significand_leastPlain, exponent_leastPlain, gap]
  norm_num

theorem shortest_plainBound (negative : Bool) :
    (ofMagnitude negative plainBound.magnitude).shortest .up = ⟨1, 16⟩ := by
  cases negative <;> decide +kernel

theorem shortest_leastPlain (negative : Bool) :
    (ofMagnitude negative leastPlain.magnitude).shortest .up = ⟨1, -4⟩ := by
  cases negative <;> decide +kernel

theorem shortest_of_magnitude {y : Binary64} {d : Digits} (same : x.magnitude = y.magnitude)
    (each : ∀ negative, (ofMagnitude negative y.magnitude).shortest .up = d) :
    x.shortest .up = d := by
  have given := each x.isNegative
  rwa [← same, ofMagnitude_magnitude] at given

section

variable (finite : x.isFinite = true) (positive : 0 < x.magnitude)
include finite positive

theorem shortest_lt_plainBound : (x.shortest .up).value < 10 ^ (16 : ℤ) ↔ x.size < 10 ^ 16 := by
  have covers := covers_shortest .up finite positive
  have bound : (10 : ℚ) ^ (16 : ℤ) = plainBound.size := by
    rw [size_plainBound]
    norm_num
  rw [← size_plainBound, size_lt_iff, bound]
  rcases lt_trichotomy x.magnitude plainBound.magnitude with less | same | greater
  · have high := covers.high.trans (upperEnd_le_lowerEnd less)
    exact iff_of_true (lt_of_le_of_lt high (lowerEnd_lt_size _)) less
  · rw [shortest_of_magnitude same shortest_plainBound, Digits.value, size_plainBound]
    exact iff_of_false (by norm_num) same.not_lt
  · have low := (upperEnd_le_lowerEnd greater).trans covers.low
    exact iff_of_false (lt_of_lt_of_le (size_lt_upperEnd _) low).not_gt greater.not_gt

theorem shortest_lt_leastPlain : (x.shortest .up).value < 10 ^ (-4 : ℤ) ↔ x.size < 1 / 10 ^ 4 := by
  have covers := covers_shortest .up finite positive
  have bound : (10 : ℚ) ^ (-4 : ℤ) = 1 / 10 ^ 4 := by norm_num
  rw [bound]
  rcases lt_trichotomy x.magnitude leastPlain.magnitude with less | same | greater
  · have ends := (upperEnd_le_lowerEnd less).trans_lt lowerEnd_leastPlain
    exact iff_of_true (covers.high.trans_lt ends) ((size_lt_upperEnd x).trans ends)
  · rw [shortest_of_magnitude same shortest_leastPlain, size_of_magnitude same]
    exact iff_of_false (by norm_num [Digits.value]) le_size_leastPlain.not_gt
  · have low := (upperEnd_le_lowerEnd greater).trans covers.low
    have above := le_size_leastPlain.trans (size_lt_upperEnd leastPlain).le
    exact iff_of_false (above.trans low).not_gt
      (le_size_leastPlain.trans (size_lt_iff.mpr greater).le).not_gt

theorem shortest_digits_pos (tie : Tie) : 0 < (x.shortest tie).digits := by
  have above := (covers_shortest tie finite positive).pos positive
  refine Nat.pos_of_ne_zero fun zero => ?_
  rw [Digits.value, zero, Nat.cast_zero, zero_mul] at above
  exact absurd above (lt_irrefl 0)

/-- A literal number has no exponent if it is between the bounds. -/
theorem isPositional_iff :
    Literal.floatStyle.isPositional
        ((Nat.toDigits 10 (x.shortest .up).digits).length + (x.shortest .up).exponent) = true ↔
      1 / 10 ^ 4 ≤ x.size ∧ x.size < 10 ^ 16 := by
  have significant := shortest_digits_pos finite positive .up
  rw [← shortest_lt_plainBound finite positive, Digits.value_lt_iff_length significant, ← not_lt,
    ← shortest_lt_leastPlain finite positive, Digits.value_lt_iff_length significant]
  simp only [FloatStyle.isPositional, Literal.floatStyle, Bool.and_eq_true, decide_eq_true_eq]
  omega

end

end Binary64

end Attest.Number
