import Attest.Document.Json
import Attest.Proofs.Document.Precision
import Attest.Proofs.Json.Integers
/-!
# Integers of documents

An integer of a JSON text keeps its value as a node if it has 64 bits with a sign. A greater one
becomes a binary number and so a multiple of 2048, next to the integer: greater integers keep their
order, but those that are near each other may be equal.
-/

namespace Attest

namespace Number.Binary64

variable {x : Binary64} {m n : Nat} {e : Int} {r : Nat}

/-! ### Rounded integers -/

/-- The number of a power of two and a significand, also where that is just too great. -/
theorem size_of_parts (least : -1074 ≤ e) (normal : fractionBound ≤ r)
    (most : r ≤ 2 * fractionBound)
    (magnitude : (x.magnitude : Int) = (e + 1074) * fractionBound + r) :
    x.size = r * 2 ^ e := by
  rcases Nat.eq_or_lt_of_le most with carried | fits
  · have exponent : x.exponent = e + 1 := by
      unfold exponent fractionBound at *
      omega
    have significand : x.significand = fractionBound := by
      unfold significand fractionBound at *
      dsimp only
      split <;> omega
    rw [size, exponent, significand, carried, zpow_add_one₀ (by norm_num)]
    push_cast
    ring
  · have exponent : x.exponent = e := by
      unfold exponent fractionBound at *
      omega
    have significand : x.significand = r := by
      unfold significand fractionBound at *
      dsimp only
      split <;> omega
    rw [size, exponent, significand]

theorem roundQuotient_bounds (least : 2 ^ 63 ≤ n) (most : n < 2 ^ 64) :
    fractionBound ≤ roundQuotient n 2048 ∧ roundQuotient n 2048 ≤ 2 * fractionBound := by
  unfold roundQuotient fractionBound
  dsimp only
  split
  · omega
  · split <;> omega

theorem roundQuotient_mono (le : m ≤ n) : roundQuotient m 2048 ≤ roundQuotient n 2048 := by
  unfold roundQuotient
  dsimp only
  split_ifs <;> omega

theorem roundQuotient_near (n : Nat) :
    n ≤ roundQuotient n 2048 * 2048 + 1024 ∧ roundQuotient n 2048 * 2048 ≤ n + 1024 := by
  unfold roundQuotient
  dsimp only
  split
  · omega
  · split <;> omega

theorem quotientExponent_wide (least : 2 ^ 63 ≤ n) (most : n < 2 ^ 64) :
    quotientExponent n 1 = 11 := by
  have log : n.log2 = 63 := (Nat.log2_eq_iff (by omega)).mpr ⟨least, most⟩
  have one : Nat.log2 1 = 0 := by decide
  have enough : ¬ n * twoTo (-(11 : Int)).toNat < fractionBound * (1 * twoTo (11 : Int).toNat) := by
    have unscaled : twoTo (-(11 : Int)).toNat = 1 := by decide
    have power : fractionBound * (1 * twoTo (11 : Int).toNat) = 2 ^ 63 := by decide
    rw [unscaled, power]
    omega
  rw [quotientExponent, log, one]
  show max (if n * twoTo (-(11 : Int)).toNat < fractionBound * (1 * twoTo (11 : Int).toNat) then _
    else (11 : Int)) (-1074) = 11
  rw [if_neg enough]
  decide

theorem isNegative_ofMagnitude {m : Nat} (small : m < signBit) :
    (ofMagnitude false m).isNegative = false := by
  unfold ofMagnitude isNegative
  rw [UInt64.toNat_ofNat', if_neg Bool.false_ne_true]
  unfold signBit at *
  exact decide_eq_false (by omega)

theorem ofInt_wide {n : Int} (least : 2 ^ 63 ≤ n) (most : n < 2 ^ 64) :
    ofInt n = ofMagnitude false (1085 * fractionBound + roundQuotient n.natAbs 2048) := by
  have exponent : quotientExponent n.natAbs 1 = 11 := quotientExponent_wide (by omega) (by omega)
  obtain ⟨_, bound⟩ := roundQuotient_bounds (n := n.natAbs) (by omega) (by omega)
  have unscaled : n.natAbs * twoTo (-(11 : Int)).toNat = n.natAbs := Nat.mul_one _
  have unit : 1 * twoTo (11 : Int).toNat = 2048 := by decide
  have field : ((11 : Int) + 1074).toNat = 1085 := by decide
  have finite : 1085 * fractionBound + roundQuotient n.natAbs 2048 ≤ infiniteMagnitude := by
    unfold infiniteMagnitude fractionBound at *
    omega
  rw [ofInt, ofRatio, if_neg (by omega), decide_eq_false (show ¬ n < 0 by omega)]
  dsimp only
  rw [exponent, unscaled, unit, field, Nat.min_eq_left finite]

/-- An unsigned integer above those with a sign becomes a multiple of 2048. -/
theorem value_ofInt_wide {n : Int} (least : 2 ^ 63 ≤ n) (most : n < 2 ^ 64) :
    (ofInt n).isFinite = true ∧ (ofInt n).value = (roundQuotient n.natAbs 2048 * 2048 : Nat) := by
  obtain ⟨normal, bound⟩ := roundQuotient_bounds (n := n.natAbs) (by omega) (by omega)
  have small : 1085 * fractionBound + roundQuotient n.natAbs 2048 < signBit := by
    unfold signBit fractionBound at *
    omega
  have magnitude : (ofMagnitude false _).magnitude = _ := magnitude_ofMagnitude small
  rw [ofInt_wide least most]
  constructor
  · rw [isFinite, magnitude]
    unfold infiniteMagnitude fractionBound at *
    exact decide_eq_true (by omega)
  · have parts := size_of_parts (e := 11) (by decide) normal bound (by
      rw [magnitude]
      push_cast
      ring)
    rw [value, isNegative_ofMagnitude small, if_neg Bool.false_ne_true, parts]
    push_cast
    norm_num

end Number.Binary64

open Number

namespace Node

variable {m n : Int}

/-! ### The node of an integer -/

/-- The integer that the node of an unsigned or signed integer denotes. -/
def kept (n : Int) : Int :=
  if n ≤ maxInteger then n else (Binary64.roundQuotient n.natAbs 2048 * 2048 : Nat)

theorem value?_ofJson (most : n ≤ JsonReader.maxUnsigned) :
    (ofJson (.integer n)).value? = some (kept n : ℚ) := by
  rw [ofJson, kept]
  split
  · rfl
  · next wide =>
    unfold maxInteger at wide
    unfold JsonReader.maxUnsigned at most
    obtain ⟨finite, value⟩ := Binary64.value_ofInt_wide (n := n) (by omega) (by omega)
    rw [value?_of_finite finite, value]
    rfl

theorem fits_ofJson (least : minInteger ≤ n) : (ofJson (.integer n)).FitsWord := by
  rw [ofJson]
  split
  · next most => exact ⟨least, most⟩
  · trivial

theorem kept_of_le (small : n ≤ maxInteger) : kept n = n :=
  if_pos small

theorem kept_of_lt (wide : maxInteger < n) :
    kept n = (Binary64.roundQuotient n.natAbs 2048 * 2048 : Nat) :=
  if_neg (Int.not_le.mpr wide)

theorem kept_near (n : Int) : n ≤ kept n + 1024 ∧ kept n ≤ n + 1024 := by
  by_cases small : n ≤ maxInteger
  · rw [kept_of_le small]
    omega
  · have near := Binary64.roundQuotient_near n.natAbs
    rw [kept_of_lt (Int.not_le.mp small)]
    unfold maxInteger at small
    omega

/-- The multiples above begin where the others end. -/
theorem lt_kept (wide : maxInteger < n) : maxInteger < kept n := by
  have near := Binary64.roundQuotient_near n.natAbs
  rw [kept_of_lt wide]
  unfold maxInteger at *
  omega

theorem kept_mono (le : m ≤ n) : kept m ≤ kept n := by
  by_cases small : n ≤ maxInteger
  · rwa [kept_of_le small, kept_of_le (Int.le_trans le small)]
  · have wide := Int.not_le.mp small
    by_cases alsoSmall : m ≤ maxInteger
    · rw [kept_of_le alsoSmall]
      exact Int.le_trans alsoSmall (Int.le_of_lt (lt_kept wide))
    · have alsoWide := Int.not_le.mp alsoSmall
      have magnitudes : m.natAbs ≤ n.natAbs := by
        unfold maxInteger at *
        omega
      have mono := Binary64.roundQuotient_mono magnitudes
      rw [kept_of_lt wide, kept_of_lt alsoWide]
      omega

/-- Two integers that are rounded to one are both above those with a sign, and near each other. -/
theorem wide_of_kept (same : kept m = kept n) (less : m < n) :
    maxInteger < m ∧ maxInteger < n ∧ |m - n| ≤ 2048 := by
  have first := kept_near m
  have second := kept_near n
  have distance : |m - n| ≤ 2048 := abs_le.mpr ⟨by omega, by omega⟩
  by_cases small : m ≤ maxInteger
  · rw [kept_of_le small] at same
    by_cases alsoSmall : n ≤ maxInteger
    · rw [kept_of_le alsoSmall] at same
      omega
    · have wide := lt_kept (Int.not_le.mp alsoSmall)
      omega
  · exact ⟨by omega, by omega, distance⟩

theorem compare_kept (m n : Int) :
    compare (kept m) (kept n) = compare m n ∨
      kept m = kept n ∧ maxInteger < m ∧ maxInteger < n ∧ |m - n| ≤ 2048 := by
  rcases lt_trichotomy m n with less | rfl | greater
  · rcases lt_or_eq_of_le (kept_mono less.le) with apart | same
    · exact .inl (by rw [compare_lt_iff_lt.mpr less, compare_lt_iff_lt.mpr apart])
    · exact .inr ⟨same, wide_of_kept same less⟩
  · exact .inl (by rw [compare_eq_iff_eq.mpr rfl, compare_eq_iff_eq.mpr rfl])
  · rcases lt_or_eq_of_le (kept_mono greater.le) with apart | same
    · exact .inl (by rw [compare_gt_iff_gt.mpr greater, compare_gt_iff_gt.mpr apart])
    · obtain ⟨wide, alsoWide, near⟩ := wide_of_kept same greater
      rw [abs_sub_comm] at near
      exact .inr ⟨same.symm, alsoWide, wide, near⟩

/-! ### Order -/

theorem compare_cast (j k : Int) : compare (j : ℚ) (k : ℚ) = compare j k :=
  compare_congr Int.cast_lt.mpr (congrArg Int.cast) Int.cast_lt.mpr

/-- The nodes of two integers are ordered as what they denote. -/
theorem order?_of_kept (least : minInteger ≤ m) (most : m ≤ JsonReader.maxUnsigned)
    (otherLeast : minInteger ≤ n) (otherMost : n ≤ JsonReader.maxUnsigned) :
    (ofJson (.integer m)).order? (ofJson (.integer n)) = some (compare (kept m) (kept n)) := by
  have compared := order?_compares (fits_ofJson least) (fits_ofJson otherLeast) (value?_ofJson most)
    (value?_ofJson otherMost)
  rw [compare_cast] at compared
  rcases compared with exactly | ⟨_, _, whole⟩
  · exact exactly
  -- What the nodes denote are integers, also where they are binary numbers.
  · exact absurd ⟨_, _, rfl, rfl⟩ whole

section

open JsonReader

variable {s t : JsonCursor} {rest more : List Char} {room other : Nat}

/-- Two integers of JSON texts become nodes that are ordered as the integers, but that two greater
than those with a sign may be equal if they are near each other. -/
theorem order?_of_spells (first : Spells s m rest) (second : Spells t n more)
    (least : minInteger ≤ m) (most : m ≤ maxUnsigned) (otherLeast : minInteger ≤ n)
    (otherMost : n ≤ maxUnsigned) :
    ∃ i j here there, value room s = .ok (i, ⟨here, rest⟩) ∧ value other t = .ok (j, ⟨there, more⟩) ∧
      ((ofJson i).looseEquals (ofJson j) = true ↔ (ofJson i).order? (ofJson j) = some .eq) ∧
      ((ofJson i).order? (ofJson j) = some (compare m n) ∨
        (ofJson i).order? (ofJson j) = some .eq ∧ maxInteger < m ∧ maxInteger < n ∧
          |m - n| ≤ 2048) := by
  obtain ⟨here, read⟩ : ∃ here, value room s = _ := exists_value first least most
  obtain ⟨there, alsoRead⟩ : ∃ there, value other t = _ := exists_value second otherLeast otherMost
  have order := order?_of_kept least most otherLeast otherMost
  refine ⟨_, _, here, there, read, alsoRead, looseEquals_iff_order? order, ?_⟩
  rw [order]
  rcases compare_kept m n with same | ⟨same, near⟩
  · exact .inl (congrArg some same)
  · exact .inr ⟨congrArg some (compare_eq_iff_eq.mpr same), near⟩

theorem order?_of_spells_wide :
    let m : Int := 18446744073709551615
    let n : Int := -9223372036854775808
    let s : JsonCursor := ⟨⟨1, 1⟩, " 18446744073709551615, ".toList⟩
    let t : JsonCursor := ⟨⟨1, 22⟩, " -9223372036854775808]".toList⟩
    Spells s m [',', ' '] ∧ Spells t n [']'] ∧ minInteger ≤ m ∧ m ≤ maxUnsigned ∧ minInteger ≤ n ∧
      n ≤ maxUnsigned ∧
      ∃ i j here there, value 0 s = .ok (i, ⟨here, [',', ' ']⟩) ∧ value 0 t = .ok (j, ⟨there, [']']⟩) ∧
        ((ofJson i).looseEquals (ofJson j) = true ↔ (ofJson i).order? (ofJson j) = some .eq) ∧
        ((ofJson i).order? (ofJson j) = some (compare m n) ∨
          (ofJson i).order? (ofJson j) = some .eq ∧ maxInteger < m ∧ maxInteger < n ∧
            |m - n| ≤ 2048) := by
  intro m n s t
  have first : Spells s m [',', ' '] := by
    have spelled : s = ⟨⟨1, 1⟩, [' '] ++ ((toString m).toList ++ [',', ' '])⟩ :=
      congrArg (JsonCursor.mk _) (by decide +kernel)
    rw [spelled]
    exact .literal _ m (List.all_eq_true.mp rfl) (endsNumber_cons rfl (by decide))
  have second : Spells t n [']'] := by
    have spelled : t = ⟨⟨1, 22⟩, [' '] ++ ((toString n).toList ++ [']'])⟩ :=
      congrArg (JsonCursor.mk _) (by decide +kernel)
    rw [spelled]
    exact .literal _ n (List.all_eq_true.mp rfl) (endsNumber_cons rfl (by decide))
  have least : minInteger ≤ m := by decide
  have most : m ≤ maxUnsigned := by decide
  have otherLeast : minInteger ≤ n := by decide
  have otherMost : n ≤ maxUnsigned := by decide
  exact ⟨first, second, least, most, otherLeast, otherMost,
    order?_of_spells first second least most otherLeast otherMost⟩

/-- The two greatest unsigned integers are one number as nodes. -/
theorem integers_coincide :
    ¬ ∀ m n : Int, minInteger ≤ m → m ≤ maxUnsigned → minInteger ≤ n → n ≤ maxUnsigned →
        ((ofJson (.integer m)).looseEquals (ofJson (.integer n)) = true ↔ m = n) := by
  intro every
  have same := every 18446744073709551615 18446744073709551614 (by decide) (by decide) (by decide)
    (by decide)
  exact absurd (same.mp (by decide +kernel)) (by decide)

end

end Node

end Attest
