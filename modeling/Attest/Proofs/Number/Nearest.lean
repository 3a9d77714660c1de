import Attest.Number.Shortest
import Attest.Proofs.Number.Values
/-!
# The nearest binary number

A quotient is rounded to a binary number exactly from the numbers around it, up to half a unit
away: the ends belong to the numbers with an even significand.
-/

namespace Attest.Number

/-! ### Powers -/

theorem twoTo_pos (n : Nat) : 0 < twoTo n :=
  Nat.two_pow_pos n

theorem twoTo_toNat (e : ℤ) : (twoTo e.toNat : ℚ) = 2 ^ e * twoTo (-e).toNat := by
  obtain ⟨n, rfl | rfl⟩ := e.eq_nat_or_neg
  · simp [twoTo]
  · simp [twoTo]

namespace Binary64

variable {x y : Binary64} {num den m : ℕ} {e : ℤ} {v : ℚ}

theorem scaled_ratio (num den : ℕ) (e : ℤ) :
    ((num * twoTo (-e).toNat : ℕ) : ℚ) / (den * twoTo e.toNat : ℕ) = num / den / 2 ^ e := by
  have unit : (2 : ℚ) ^ e ≠ 0 := (zpow_pos (by norm_num) e).ne'
  have scale : (twoTo (-e).toNat : ℚ) ≠ 0 := Nat.cast_ne_zero.mpr (twoTo_pos _).ne'
  rw [Nat.cast_mul, Nat.cast_mul, twoTo_toNat e, div_div, ← mul_assoc]
  exact mul_div_mul_right _ _ scale

/-! ### Rounding to an integer -/

/-- The quotient is rounded to an integer that is at most one half away. -/
theorem roundQuotient_of_near (positive : 0 < den) (low : (m : ℚ) - 1 / 2 ≤ num / den)
    (high : (num : ℚ) / den ≤ m + 1 / 2)
    (inside : m % 2 = 1 → (m : ℚ) - 1 / 2 < num / den ∧ (num : ℚ) / den < m + 1 / 2) :
    roundQuotient num den = m := by
  have unit : (0 : ℚ) < den := Nat.cast_pos.mpr positive
  have low : 2 * (m * den) ≤ 2 * num + den := by
    rw [le_div_iff₀ unit] at low
    have le : (2 : ℚ) * (m * den) ≤ 2 * num + den := by linarith
    exact_mod_cast le
  have high : 2 * num ≤ 2 * (m * den) + den := by
    rw [div_le_iff₀ unit] at high
    have le : (2 : ℚ) * num ≤ 2 * (m * den) + den := by linarith
    exact_mod_cast le
  have inside : m % 2 = 1 → 2 * (m * den) < 2 * num + den ∧ 2 * num < 2 * (m * den) + den := by
    intro odd
    obtain ⟨above, below⟩ := inside odd
    rw [lt_div_iff₀ unit] at above
    rw [div_lt_iff₀ unit] at below
    have above : (2 : ℚ) * (m * den) < 2 * num + den := by linarith
    have below : (2 : ℚ) * num < 2 * (m * den) + den := by linarith
    exact ⟨by exact_mod_cast above, by exact_mod_cast below⟩
  have split : num / den * den + num % den = num := Nat.div_add_mod' num den
  have remainder : num % den < den := Nat.mod_lt num positive
  unfold roundQuotient
  generalize num / den = q at split ⊢
  generalize num % den = r at split remainder ⊢
  have place : m = q ∨ m = q + 1 := by
    have least : q < m + 1 := by
      refine Nat.lt_of_mul_lt_mul_right (a := den) ?_
      rw [Nat.add_mul]
      omega
    have most : m < q + 2 := by
      refine Nat.lt_of_mul_lt_mul_right (a := den) ?_
      rw [Nat.add_mul]
      omega
    omega
  rcases place with rfl | rfl
  · dsimp only
    repeat' split
    all_goals omega
  · rw [Nat.add_mul] at low high inside
    dsimp only
    repeat' split
    all_goals omega

/-! ### The exponent of a quotient -/

/-- The least power of two at which the value takes no more than 53 bits. -/
structure TakesExponent (v : ℚ) (e : ℤ) : Prop where
  least : -1074 ≤ e
  below : v < 2 ^ 53 * 2 ^ e
  above : -1074 < e → 2 ^ 52 * 2 ^ e ≤ v

theorem two_zpow_add (n : ℕ) (e : ℤ) : (2 : ℚ) ^ n * 2 ^ e = 2 ^ (n + e) := by
  rw [zpow_add₀ (by norm_num), zpow_natCast]

theorem raised_le {d e : ℤ} (less : d < e) : (2 : ℚ) ^ 53 * 2 ^ d ≤ 2 ^ 52 * 2 ^ e := by
  rw [two_zpow_add, two_zpow_add]
  exact zpow_le_zpow_right₀ (by norm_num) (by push_cast; omega)

theorem TakesExponent.of_raised {e : ℤ} (below : v < 2 ^ 53 * 2 ^ e) (above : 2 ^ 52 * 2 ^ e ≤ v) :
    TakesExponent v (max e (-1074)) := by
  rcases le_total e (-1074) with small | large
  · rw [max_eq_right small]
    have le : (2 : ℚ) ^ e ≤ 2 ^ (-1074 : ℤ) := zpow_le_zpow_right₀ (by norm_num) small
    exact ⟨le_refl _, lt_of_lt_of_le below (mul_le_mul_of_nonneg_left le (by norm_num)),
      fun less => absurd less (lt_irrefl _)⟩
  · rw [max_eq_left large]
    exact ⟨large, below, fun _ => above⟩

/-- The binary logarithms of both parts bound the quotient. -/
theorem quotient_bounds (first : 0 < num) (second : 0 < den) :
    (2 : ℚ) ^ ((num.log2 : ℤ) - den.log2 - 1) < num / den ∧
      (num : ℚ) / den < 2 ^ ((num.log2 : ℤ) - den.log2 + 1) := by
  have unit : (0 : ℚ) < den := Nat.cast_pos.mpr second
  have numLow : (2 : ℚ) ^ (num.log2 : ℤ) ≤ num := by
    rw [zpow_natCast]
    exact_mod_cast Nat.log2_self_le first.ne'
  have numHigh : (num : ℚ) < 2 ^ ((num.log2 : ℤ) + 1) := by
    have less : num < 2 ^ (num.log2 + 1) := Nat.lt_log2_self
    exact_mod_cast less
  have denLow : (2 : ℚ) ^ (den.log2 : ℤ) ≤ den := by
    rw [zpow_natCast]
    exact_mod_cast Nat.log2_self_le second.ne'
  have denHigh : (den : ℚ) < 2 ^ ((den.log2 : ℤ) + 1) := by
    have less : den < 2 ^ (den.log2 + 1) := Nat.lt_log2_self
    exact_mod_cast less
  constructor
  · rw [lt_div_iff₀ unit]
    calc (2 : ℚ) ^ ((num.log2 : ℤ) - den.log2 - 1) * den
        < 2 ^ ((num.log2 : ℤ) - den.log2 - 1) * 2 ^ ((den.log2 : ℤ) + 1) :=
          mul_lt_mul_of_pos_left denHigh (zpow_pos (by norm_num) _)
      _ = 2 ^ (num.log2 : ℤ) := by
          rw [← zpow_add₀ (by norm_num)]
          congr 1
          omega
      _ ≤ num := numLow
  · rw [div_lt_iff₀ unit]
    calc (num : ℚ) < 2 ^ ((num.log2 : ℤ) + 1) := numHigh
      _ = 2 ^ ((num.log2 : ℤ) - den.log2 + 1) * 2 ^ (den.log2 : ℤ) := by
          rw [← zpow_add₀ (by norm_num)]
          congr 1
          omega
      _ ≤ 2 ^ ((num.log2 : ℤ) - den.log2 + 1) * den :=
          mul_le_mul_of_nonneg_left denLow (zpow_pos (by norm_num) _).le

theorem takesExponent_quotient (first : 0 < num) (second : 0 < den) :
    TakesExponent (num / den) (quotientExponent num den) := by
  have unit : (0 : ℚ) < den := Nat.cast_pos.mpr second
  obtain ⟨low, high⟩ := quotient_bounds first second
  unfold quotientExponent
  generalize estimated : (num.log2 : ℤ) - den.log2 - 52 = estimate
  have low : (2 : ℚ) ^ 52 * 2 ^ (estimate - 1) < num / den := by
    rw [two_zpow_add]
    convert low using 2
    omega
  have high : (num : ℚ) / den < 2 ^ 53 * 2 ^ estimate := by
    rw [two_zpow_add]
    convert high using 2
    omega
  have scale : (0 : ℚ) < (den * twoTo estimate.toNat : ℕ) :=
    Nat.cast_pos.mpr (Nat.mul_pos second (twoTo_pos _))
  have compared : num * twoTo (-estimate).toNat < fractionBound * (den * twoTo estimate.toNat) ↔
      (num : ℚ) / den < 2 ^ 52 * 2 ^ estimate := by
    rw [← Nat.cast_lt (α := ℚ), Nat.cast_mul fractionBound, ← div_lt_iff₀ scale, scaled_ratio,
      div_lt_iff₀ (zpow_pos (by norm_num) _)]
    rfl
  dsimp only
  split
  · next below =>
    refine .of_raised ?_ low.le
    have half : (2 : ℚ) ^ 53 * 2 ^ (estimate - 1) = 2 ^ 52 * 2 ^ estimate := by
      rw [two_zpow_add, two_zpow_add]
      congr 1
      omega
    rw [half]
    exact compared.mp below
  · next beyond => exact .of_raised high (le_of_not_gt fun less => beyond (compared.mpr less))

/-! ### Numbers around a binary number -/

/-- The midpoint to the number below, and the midpoint to the number above. -/
def lowerEnd (x : Binary64) : ℚ :=
  (x.significand - x.lowerGap / 4) * 2 ^ x.exponent

def upperEnd (x : Binary64) : ℚ :=
  (x.significand + 1 / 2) * 2 ^ x.exponent

/-- The value is at most half a unit away; the ends belong to even significands. -/
structure Covers (x : Binary64) (v : ℚ) : Prop where
  low : x.lowerEnd ≤ v
  high : v ≤ x.upperEnd
  inside : x.significand % 2 = 1 → x.lowerEnd < v ∧ v < x.upperEnd

theorem lowerGap_le (x : Binary64) : x.lowerGap ≤ 2 := by
  unfold lowerGap
  split <;> decide

theorem lowerGap_pos (x : Binary64) : 1 ≤ x.lowerGap := by
  unfold lowerGap
  split <;> decide

theorem cast_fractionBound : (fractionBound : ℚ) = 2 ^ 52 := by
  norm_num [fractionBound]

theorem half_le_lowerEnd (x : Binary64) :
    ((x.significand : ℚ) - 1 / 2) * 2 ^ x.exponent ≤ x.lowerEnd := by
  have gap : (x.lowerGap : ℚ) ≤ 2 := by exact_mod_cast lowerGap_le x
  exact mul_le_mul_of_nonneg_right (by linarith) (unit_pos x).le

/-- Below a power of two the numbers are twice as dense. -/
theorem lowerEnd_of_least (least : x.significand = fractionBound) (normal : -1074 < x.exponent) :
    x.lowerEnd = (2 ^ 53 - 1 / 2) * 2 ^ (x.exponent - 1) := by
  have gap : x.lowerGap = 1 := if_pos ⟨least, normal.ne'⟩
  rw [lowerEnd, least, gap, cast_fractionBound, zpow_sub_one₀ (by norm_num)]
  ring

/-- A covered value takes the exponent of the number, or is just below its least significand. -/
theorem Covers.exponent_cases (covers : x.Covers v) (takes : TakesExponent v e) :
    e = x.exponent ∨ x.significand = fractionBound ∧ -1074 < x.exponent ∧ e = x.exponent - 1 := by
  have unit := unit_pos x
  rcases lt_trichotomy e x.exponent with less | same | greater
  · have normal : -1074 < x.exponent := lt_of_le_of_lt takes.least less
    have full := le_significand normal
    have small : v < 2 ^ 52 * 2 ^ x.exponent := takes.below.trans_le (raised_le less)
    have least : x.significand = fractionBound := by
      have low := lt_of_le_of_lt ((half_le_lowerEnd x).trans covers.low) small
      have low := lt_of_mul_lt_mul_right low unit.le
      rw [← cast_fractionBound] at low
      have next : (x.significand : ℚ) < (fractionBound + 1 : ℕ) := by
        push_cast
        linarith
      have next : x.significand < fractionBound + 1 := by exact_mod_cast next
      omega
    refine .inr ⟨least, normal, ?_⟩
    have low := lowerEnd_of_least least normal ▸ covers.low
    by_contra other
    have far : (2 : ℚ) ^ 53 * 2 ^ e ≤ 2 ^ 52 * 2 ^ (x.exponent - 1) := raised_le (by omega)
    have unit' : (0 : ℚ) < 2 ^ (x.exponent - 1) := zpow_pos (by norm_num) _
    have below := takes.below
    linarith
  · exact .inl same
  · have high := takes.above (lt_of_le_of_lt (least_exponent x) greater)
    have bound : (x.significand : ℚ) + 1 ≤ 2 ^ 53 := by exact_mod_cast significand_lt x
    have less : x.upperEnd < 2 ^ 53 * 2 ^ x.exponent :=
      mul_lt_mul_of_pos_right (by linarith) unit
    exact absurd (high.trans covers.high) (not_le.mpr (less.trans_le (raised_le greater)))

theorem ofRatio_eq (negative : Bool) (nonzero : num ≠ 0) :
    ofRatio negative num den = ofMagnitude negative
      (min ((quotientExponent num den + 1074).toNat * fractionBound +
        roundQuotient (num * twoTo (-quotientExponent num den).toNat)
          (den * twoTo (quotientExponent num den).toNat)) infiniteMagnitude) := by
  rw [ofRatio, if_neg nonzero]

/-- A quotient is rounded to the finite number that covers it. -/
theorem ofRatio_of_covers (finite : x.isFinite = true) (first : 0 < num) (second : 0 < den)
    (covers : x.Covers (num / den)) (negative : Bool) :
    ofRatio negative num den = ofMagnitude negative x.magnitude := by
  have takes := takesExponent_quotient first second
  have magnitude := magnitude_eq x
  have exponent := least_exponent x
  have small : x.magnitude < infiniteMagnitude := of_decide_eq_true finite
  rw [ofRatio_eq negative first.ne']
  generalize quotientExponent num den = e at takes ⊢
  have unit : (0 : ℚ) < 2 ^ e := zpow_pos (by norm_num) e
  have positive : 0 < den * twoTo e.toNat := Nat.mul_pos second (twoTo_pos _)
  -- rounding at the exponent gives the magnitude, which is finite
  have rounds {m : ℕ} (rounded : roundQuotient (num * twoTo (-e).toNat) (den * twoTo e.toNat) = m)
      (same : (e + 1074).toNat * fractionBound + m = x.magnitude) :
      ofMagnitude negative (min ((e + 1074).toNat * fractionBound +
        roundQuotient (num * twoTo (-e).toNat) (den * twoTo e.toNat)) infiniteMagnitude) =
      ofMagnitude negative x.magnitude := by
    rw [rounded, same, Nat.min_eq_left small.le]
  rcases covers.exponent_cases takes with rfl | ⟨least, normal, rfl⟩
  · refine rounds (roundQuotient_of_near positive (m := x.significand) ?_ ?_ ?_) ?_
    · rw [scaled_ratio, le_div_iff₀ unit]
      exact (half_le_lowerEnd x).trans covers.low
    · rw [scaled_ratio, div_le_iff₀ unit]
      exact covers.high
    · intro odd
      obtain ⟨low, high⟩ := covers.inside odd
      rw [scaled_ratio, lt_div_iff₀ unit, div_lt_iff₀ unit]
      exact ⟨lt_of_le_of_lt (half_le_lowerEnd x) low, high⟩
    · unfold fractionBound at *
      omega
  · refine rounds (roundQuotient_of_near positive (m := 2 ^ 53) ?_ ?_ ?_) ?_
    · rw [scaled_ratio, le_div_iff₀ unit]
      have low := lowerEnd_of_least least normal ▸ covers.low
      exact_mod_cast low
    · rw [scaled_ratio, div_le_iff₀ unit]
      have below := takes.below
      push_cast
      linarith
    · intro odd
      cases odd
    · unfold fractionBound at *
      omega

/-! ### Order -/

theorem size_lt_upperEnd (x : Binary64) : x.size < x.upperEnd :=
  mul_lt_mul_of_pos_right (by linarith) (unit_pos x)

theorem lowerEnd_lt_size (x : Binary64) : x.lowerEnd < x.size := by
  have gap : (1 : ℚ) ≤ x.lowerGap := by exact_mod_cast lowerGap_pos x
  exact mul_lt_mul_of_pos_right (by linarith) (unit_pos x)

theorem significand_pos (positive : 0 < x.magnitude) : 0 < x.significand := by
  unfold significand fractionBound
  dsimp only
  split <;> omega

theorem Covers.pos (covers : x.Covers v) (positive : 0 < x.magnitude) : 0 < v := by
  have atLeast : (1 : ℚ) ≤ x.significand := by exact_mod_cast significand_pos positive
  have above : 0 < x.lowerEnd :=
    lt_of_lt_of_le (mul_pos (by linarith) (unit_pos x)) (half_le_lowerEnd x)
  exact above.trans_le covers.low

/-- The numbers around two binary numbers are apart, but for an end. -/
theorem upperEnd_le_lowerEnd (less : x.magnitude < y.magnitude) : x.upperEnd ≤ y.lowerEnd := by
  have first := magnitude_eq x
  have second := magnitude_eq y
  have unit := unit_pos y
  rcases eq_or_lt_of_le (exponent_mono less.le) with same | below
  · have next : x.significand + 1 ≤ y.significand := by
      rw [same] at first
      omega
    have next : (x.significand : ℚ) + 1 ≤ y.significand := by exact_mod_cast next
    refine le_trans ?_ (half_le_lowerEnd y)
    rw [upperEnd, same]
    exact mul_le_mul_of_nonneg_right (by linarith) unit.le
  · have normal : -1074 < y.exponent := lt_of_le_of_lt (least_exponent x) below
    have bound : (x.significand : ℚ) + 1 ≤ 2 ^ 53 := by exact_mod_cast significand_lt x
    have small : x.upperEnd ≤ (2 ^ 53 - 1 / 2) * 2 ^ (y.exponent - 1) := by
      have le : (2 : ℚ) ^ x.exponent ≤ 2 ^ (y.exponent - 1) :=
        zpow_le_zpow_right₀ (by norm_num) (by omega)
      exact mul_le_mul (by linarith) le (unit_pos x).le (by norm_num)
    rcases eq_or_lt_of_le (le_significand normal) with least | more
    · rwa [lowerEnd_of_least least.symm normal]
    · refine small.trans (le_trans ?_ (half_le_lowerEnd y))
      have more : (fractionBound : ℚ) + 1 ≤ y.significand := by exact_mod_cast more
      rw [cast_fractionBound] at more
      have half : (2 : ℚ) ^ (y.exponent - 1) = 2 ^ y.exponent / 2 := by
        rw [zpow_sub_one₀ (by norm_num)]
        ring
      rw [half]
      have wide : (2 : ℚ) ^ 52 + 1 / 2 ≤ y.significand - 1 / 2 := by linarith
      have scaled := mul_le_mul_of_nonneg_right wide unit.le
      linarith

end Binary64

end Attest.Number
