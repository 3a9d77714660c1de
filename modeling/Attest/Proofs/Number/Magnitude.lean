import Attest.Proofs.Number.Decimal
/-!
# Binary numbers with a decimal

The binary numbers up to `2 ^ 96` have a decimal, and those beyond have none. On its way to a
decimal a greater number loses what five does not divide, but never so much that the rest would
fit.
-/

namespace Attest.Number

namespace Decimal

/-- What a fifth of a magnitude is at least, where the magnitude cannot be doubled. -/
def leastFifth : Nat := coefficientBound / 10

/-- A number beyond the bound that was divided by five stays beyond it. -/
theorem twosToTens_of_divided (count places : Nat) (s : Scaled) (power : s.power = places + count)
    (divided : 0 < places) (large : leastFifth ≤ s.magnitude)
    (beyond : coefficientBound ≤ s.magnitude * 2 ^ count * 10 ^ places) :
    ∃ left : Nat, 0 < left ∧ (twosToTens count s).power = left ∧
      coefficientBound ≤ (twosToTens count s).magnitude * 10 ^ left := by
  induction count generalizing places s with
  | zero =>
    rw [twosToTens]
    refine ⟨places, divided, by omega, ?_⟩
    rwa [Nat.pow_zero, Nat.mul_one] at beyond
  | succ count ih =>
    rw [twosToTens]
    split
    · refine ih places _ (by dsimp only; omega) divided (by dsimp only; omega) ?_
      rwa [Nat.mul_assoc s.magnitude, ← Nat.pow_succ']
    · next overflows =>
      have fifth : leastFifth ≤ s.magnitude / 5 := by
        unfold leastFifth coefficientBound at *
        omega
      refine ih (places + 1) _ (by dsimp only; omega) (by omega) fifth ?_
      -- Two divisions are enough: `100 * leastFifth` is beyond the bound.
      calc coefficientBound ≤ leastFifth * 1 * 10 ^ 2 := by decide
        _ ≤ s.magnitude / 5 * 2 ^ count * 10 ^ (places + 1) :=
          Nat.mul_le_mul (Nat.mul_le_mul fifth Nat.one_le_two_pow)
            (Nat.pow_le_pow_right (by decide) (by omega))

/-- The three above the bound are what the first division may lose. -/
theorem twosToTens_of_beyond (count : Nat) (s : Scaled) (power : s.power = count)
    (small : s.magnitude < coefficientBound)
    (beyond : coefficientBound + 3 ≤ s.magnitude * 2 ^ count) :
    ∃ left : Nat, 0 < left ∧ (twosToTens count s).power = left ∧
      coefficientBound ≤ (twosToTens count s).magnitude * 10 ^ left := by
  induction count generalizing s with
  | zero => omega
  | succ count ih =>
    rw [twosToTens]
    split
    · next fits =>
      refine ih _ (by dsimp only; omega) fits ?_
      rwa [Nat.mul_assoc s.magnitude, ← Nat.pow_succ']
    · next overflows =>
      have fifth : leastFifth ≤ s.magnitude / 5 := by
        unfold leastFifth coefficientBound at *
        omega
      refine twosToTens_of_divided count 1 _ (by dsimp only; omega) (by decide) fifth ?_
      dsimp only
      rcases Nat.eq_zero_or_pos count with rfl | more
      · unfold coefficientBound at *
        omega
      · have doubled : 2 ^ 1 ≤ 2 ^ count := Nat.pow_le_pow_right (by decide) more
        calc coefficientBound ≤ leastFifth * 2 ^ 1 * 10 ^ 1 := by decide
          _ ≤ s.magnitude / 5 * 2 ^ count * 10 ^ 1 :=
            Nat.mul_le_mul_right _ (Nat.mul_le_mul fifth doubled)

theorem timesTens_of_beyond (count n : Nat) (beyond : coefficientBound ≤ n * 10 ^ count)
    (positive : 0 < count) : timesTens count n = none := by
  induction count generalizing n with
  | zero => omega
  | succ count ih =>
    rw [timesTens]
    split
    · next fits =>
      have later : coefficientBound ≤ n * 10 * 10 ^ count := by
        rwa [Nat.mul_assoc, ← Nat.pow_succ']
      rcases Nat.eq_zero_or_pos count with rfl | more
      · omega
      · exact ih _ later more
    · rfl

/-- The magnitude of `2 ^ 96`. -/
def greatestMagnitude : Nat := 1119 * Binary64.fractionBound

theorem beyond_of_magnitude {x : Binary64} (large : greatestMagnitude < x.magnitude) :
    ∃ count : Nat, 0 < count ∧ x.exponent = count ∧
      coefficientBound + 3 ≤ x.significand * 2 ^ count := by
  have power : x.exponent = (x.magnitude / Binary64.fractionBound : Nat) - 1075 := by
    unfold greatestMagnitude Binary64.fractionBound at large
    unfold Binary64.exponent Binary64.fractionBound
    omega
  have significand :
      x.significand = x.magnitude % Binary64.fractionBound + Binary64.fractionBound := by
    unfold greatestMagnitude Binary64.fractionBound at large
    unfold Binary64.significand Binary64.fractionBound
    dsimp only
    rw [if_neg (by omega)]
  generalize position : x.magnitude / Binary64.fractionBound = field at power
  have atLeast : 1119 ≤ field := by
    unfold greatestMagnitude Binary64.fractionBound at *
    omega
  refine ⟨field - 1075, by omega, by omega, ?_⟩
  rcases Nat.eq_or_lt_of_le atLeast with first | later
  · have more : Binary64.fractionBound + 1 ≤ x.significand := by
      unfold greatestMagnitude Binary64.fractionBound at *
      omega
    calc coefficientBound + 3 ≤ (Binary64.fractionBound + 1) * 2 ^ 44 := by decide
      _ ≤ x.significand * 2 ^ (field - 1075) :=
        Nat.mul_le_mul more (Nat.pow_le_pow_right (by decide) (by omega))
  · calc coefficientBound + 3 ≤ Binary64.fractionBound * 2 ^ 45 := by decide
      _ ≤ x.significand * 2 ^ (field - 1075) :=
        Nat.mul_le_mul (by omega) (Nat.pow_le_pow_right (by decide) (by omega))

theorem ofBinary64?_of_beyond {x : Binary64} (large : greatestMagnitude < x.magnitude) :
    ofBinary64? x = none := by
  obtain ⟨count, positive, power, beyond⟩ := beyond_of_magnitude large
  have small : x.significand < coefficientBound :=
    Nat.lt_trans (x.significand_lt) (by decide)
  obtain ⟨left, more, remains, rest⟩ :=
    twosToTens_of_beyond count ⟨x.significand, x.exponent⟩ power small beyond
  rw [ofBinary64?]
  split
  · rfl
  · have absolute : x.exponent.natAbs = count := by omega
    dsimp only
    rw [if_neg (by omega), absolute, remains, Int.toNat_natCast, timesTens_of_beyond _ _ rest more]
    rfl

/-- A binary number has a decimal exactly if it is at most `2 ^ 96` from zero. -/
theorem isSome_ofBinary64?_iff {x : Binary64} :
    (ofBinary64? x).isSome = true ↔ x.magnitude ≤ greatestMagnitude := by
  constructor
  · intro given
    by_contra large
    rw [ofBinary64?_of_beyond (Nat.lt_of_not_le large)] at given
    cases given
  · intro small
    rcases Nat.eq_or_lt_of_le small with greatest | less
    · have same : x.magnitude = (Binary64.ofMagnitude false greatestMagnitude).magnitude := by
        rw [greatest, Binary64.magnitude_ofMagnitude (by decide)]
      rw [isSome_ofBinary64? same]
      decide +kernel
    · apply isSome_of_exponent_le
      unfold greatestMagnitude Binary64.fractionBound at less
      unfold Binary64.exponent Binary64.fractionBound
      omega

end Decimal

end Attest.Number
