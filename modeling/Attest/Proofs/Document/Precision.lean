import Attest.Proofs.Document.Ordering
import Attest.Proofs.Number.Conversion
/-!
# Precision of comparisons

Numbers are compared by decimals that hold them up to a rounding. So the order of two numbers is
never reversed, and integers are told apart, but numbers that are near each other may be equal.
-/

namespace Attest.Node

open Number

variable {a b : Node} {x : Binary64} {d e : Decimal} {p q u : ℚ}

/-- The number that an integer or a finite binary number denotes. -/
def value? : Node → Option ℚ
  | integer n => some n
  | float x => if x.isFinite then some x.value else none
  | _ => none

theorem isNumber_of_value? (value : a.value? = some p) : a.IsNumber := by
  cases a with
  | integer n => exact .inl ⟨n, rfl⟩
  | float x => exact .inr ⟨x, rfl⟩
  | _ => cases value

theorem finite_of_value? (value : (float x).value? = some p) : x.isFinite = true ∧ x.value = p := by
  rw [value?] at value
  split at value
  · next finite => exact ⟨finite, Option.some.inj value⟩
  · cases value

theorem value?_of_finite (finite : x.isFinite = true) : (float x).value? = some x.value :=
  if_pos finite

/-! ### Numbers with a decimal -/

theorem rounds_of_number? (fits : a.FitsWord) (value : a.value? = some p)
    (number : a.number? = some d) : Decimal.Rounds p d.value := by
  cases a with
  | integer n =>
    obtain rfl := Option.some.inj value
    obtain rfl := Option.some.inj number
    rw [Decimal.value_ofInt]
    exact .integer (natAbs_of_fits fits)
  | float x =>
    obtain ⟨finite, rfl⟩ := finite_of_value? value
    rw [number?] at number
    have small : x.magnitude ≤ Decimal.greatestMagnitude :=
      Decimal.isSome_ofBinary64?_iff.mp (by rw [number]; rfl)
    obtain ⟨s, given, near⟩ := Decimal.exists_unfitted small
    obtain ⟨other, same, decimal⟩ := Decimal.ofBinary64?_of_unfitted finite given near.places
    obtain rfl := Option.some.inj (number.symm.trans same)
    rw [decimal, Binary64.value]
    split
    · exact .negative (.binary small given)
    · exact .positive (.binary small given)
  | _ => cases value

theorem order?_of_decimals (value : a.value? = some p) (other : b.value? = some q)
    (number : a.number? = some d) (otherNumber : b.number? = some e) :
    a.order? b = some (compare d.value e.value) := by
  have ordinal : a.ordinal? = some d := by rw [(isNumber_of_value? value).ordinal?, number]
  have otherOrdinal : b.ordinal? = some e := by
    rw [(isNumber_of_value? other).ordinal?, otherNumber]
  exact order?_of_ordinal? ordinal otherOrdinal

/-! ### Numbers beyond the decimals -/

theorem compare_of_far (far : 2 ^ 96 < |p|) (near : |q| ≤ 2 ^ 96) (also : |u| ≤ 2 ^ 96) :
    compare p q = compare p u := by
  obtain ⟨least, most⟩ := abs_le.mp near
  obtain ⟨alsoLeast, alsoMost⟩ := abs_le.mp also
  rcases lt_abs.mp far with above | below
  · rw [compare_gt_iff_gt.mpr (show q < p by linarith), compare_gt_iff_gt.mpr (by linarith)]
  · rw [compare_lt_iff_lt.mpr (show p < q by linarith), compare_lt_iff_lt.mpr (by linarith)]

/-- Beyond the decimals binary numbers are compared, exactly. -/
theorem order?_of_beyond (value : (float x).value? = some p)
    (far : Decimal.greatestMagnitude < x.magnitude) (fits : b.FitsWord)
    (other : b.value? = some q) : (float x).order? b = some (compare p q) := by
  obtain ⟨finite, rfl⟩ := finite_of_value? value
  have missing : (float x).ordinal? = none := Decimal.ofBinary64?_of_beyond far
  cases b with
  | integer n =>
    obtain rfl := Option.some.inj other
    have magnitude := Binary64.magnitude_ofInt_le (natAbs_of_fits fits)
    have alsoFinite : (Binary64.ofInt n).isFinite = true := by
      rw [Binary64.isFinite, decide_eq_true_iff]
      unfold Binary64.infiniteMagnitude Binary64.fractionBound at *
      omega
    rw [order?, missing]
    show x.compare? (Binary64.ofInt n) = _
    rw [Binary64.compare?_of_finite finite alsoFinite]
    refine congrArg some (compare_of_far ?_ ?_ ?_)
    · rw [Binary64.abs_value]
      exact lt_of_not_ge fun small => absurd (Decimal.size_le_iff.mp small) (by omega)
    · rw [Binary64.abs_value, Decimal.size_le_iff]
      unfold Decimal.greatestMagnitude Binary64.fractionBound at *
      omega
    · have wide : |(n : ℚ)| ≤ 2 ^ 63 := by
        rw [← Int.cast_abs, Int.abs_eq_natAbs]
        exact_mod_cast natAbs_of_fits fits
      linarith
  | float y =>
    obtain ⟨alsoFinite, rfl⟩ := finite_of_value? other
    rw [order?, missing]
    exact Binary64.compare?_of_finite finite alsoFinite
  | _ => cases other

theorem beyond_of_number? (value : a.value? = some p) (missing : a.number? = none) :
    ∃ x, a = float x ∧ Decimal.greatestMagnitude < x.magnitude := by
  cases a with
  | integer n => cases missing
  | float x =>
    refine ⟨x, rfl, Nat.lt_of_not_le fun small => ?_⟩
    have given := Decimal.isSome_ofBinary64?_iff.mpr small
    rw [show Decimal.ofBinary64? x = none from missing] at given
    cases given
  | _ => cases value

theorem order?_of_missing (fits : a.FitsWord) (otherFits : b.FitsWord) (value : a.value? = some p)
    (other : b.value? = some q) (apart : a.number? = none ∨ b.number? = none) :
    a.order? b = some (compare p q) := by
  rcases apart with missing | missing
  · obtain ⟨x, rfl, far⟩ := beyond_of_number? value missing
    exact order?_of_beyond value far otherFits other
  · obtain ⟨x, rfl, far⟩ := beyond_of_number? other missing
    rw [order?_swap, order?_of_beyond other far fits value]
    exact congrArg some Std.OrientedOrd.eq_swap.symm

/-! ### Order -/

/-- Two numbers that may become one decimal: near each other, and not both integers. -/
def Near (p q : ℚ) : Prop :=
  |p - q| ≤ 2 / 10 ^ 28 + max |p| |q| / 2 ^ 48 ∧ ¬ ∃ j k : ℤ, p = j ∧ q = k

theorem near_of_rounds (first : Decimal.Rounds p u) (second : Decimal.Rounds q u) (apart : p ≠ q) :
    Near p q := by
  constructor
  · have here := first.near
    have there := second.near
    have through := abs_sub_le p u q
    have left := le_max_left |p| |q|
    have right := le_max_right |p| |q|
    rw [abs_sub_comm p u] at through
    linarith
  · rintro ⟨j, k, whole, alsoWhole⟩
    rcases lt_or_gt_of_ne apart with less | greater
    · exact lt_irrefl u (first.lt second less whole alsoWhole)
    · exact lt_irrefl u (second.lt first greater alsoWhole whole)

theorem compare_of_rounds {r : ℚ} (first : Decimal.Rounds p u) (second : Decimal.Rounds q r)
    (apart : u ≠ r) : compare u r = compare p q := by
  refine compare_congr (fun less => ?_) (first.eq second) fun greater => ?_
  · exact lt_of_le_of_ne (first.le second less.le) apart
  · exact lt_of_le_of_ne (second.le first greater.le) apart.symm

/-- The order of two numbers is that of what they denote, unless they become one decimal. -/
theorem order?_compares (fits : a.FitsWord) (otherFits : b.FitsWord) (value : a.value? = some p)
    (other : b.value? = some q) :
    a.order? b = some (compare p q) ∨ a.order? b = some .eq ∧ Near p q := by
  cases number : a.number? with
  | none => exact .inl (order?_of_missing fits otherFits value other (.inl number))
  | some d =>
    cases otherNumber : b.number? with
    | none => exact .inl (order?_of_missing fits otherFits value other (.inr otherNumber))
    | some e =>
      have first := rounds_of_number? fits value number
      have second := rounds_of_number? otherFits other otherNumber
      rw [order?_of_decimals value other number otherNumber]
      -- Decimals that differ are in the order of the numbers, as rounding keeps it.
      by_cases one : d.value = e.value
      · rw [← one] at second
        rw [← one, compare_eq_iff_eq.mpr rfl]
        by_cases same : p = q
        · rw [compare_eq_iff_eq.mpr same]
          exact .inl rfl
        · exact .inr ⟨rfl, near_of_rounds first second same⟩
      · exact .inl (congrArg some (compare_of_rounds first second one))

theorem looseEquals_iff_order? {o : Ordering} (ordered : a.order? b = some o) :
    a.looseEquals b = true ↔ a.order? b = some .eq := by
  rw [ordered, ← (compared_of_order? ordered).eq_iff]
  exact ⟨congrArg some, Option.some.inj⟩

/-- Numbers are equal exactly if neither is before the other, and their order is that of what they
denote, but that numbers near each other may be equal. -/
theorem order?_precise (fits : a.FitsWord) (otherFits : b.FitsWord) (value : a.value? = some p)
    (other : b.value? = some q) :
    (a.looseEquals b = true ↔ a.order? b = some .eq) ∧
      (a.order? b = some (compare p q) ∨ a.order? b = some .eq ∧ Near p q) := by
  have order := order?_compares fits otherFits value other
  refine ⟨?_, order⟩
  rcases order with compared | ⟨equal, _⟩
  · exact looseEquals_iff_order? compared
  · exact looseEquals_iff_order? equal

/-- A tenth and the next number are one decimal. -/
theorem order?_precise_tenths :
    let x : Binary64 := ⟨0x3fb999999999999a⟩
    let y : Binary64 := ⟨0x3fb999999999999b⟩
    (float x).FitsWord ∧ (float y).FitsWord ∧ (float x).value? = some x.value ∧
      (float y).value? = some y.value ∧
      ((float x).looseEquals (float y) = true ↔ (float x).order? (float y) = some .eq) ∧
      ((float x).order? (float y) = some (compare x.value y.value) ∨
        (float x).order? (float y) = some .eq ∧ Near x.value y.value) := by
  intro x y
  have fits (z : Binary64) : (float z).FitsWord := trivial
  have value : (float x).value? = some x.value := value?_of_finite (by decide)
  have other : (float y).value? = some y.value := value?_of_finite (by decide)
  exact ⟨fits x, fits y, value, other, order?_precise (fits x) (fits y) value other⟩

/-- Numbers that are not the same may be equal. -/
theorem order?_not_exact :
    ¬ ∀ x y : Binary64, x.isFinite = true → y.isFinite = true →
        ((float x).looseEquals (float y) = true ↔ x.value = y.value) ∧
          (float x).order? (float y) = some (compare x.value y.value) := by
  intro every
  obtain ⟨same, _⟩ := every ⟨0x3fb999999999999a⟩ ⟨0x3fb999999999999b⟩ (by decide) (by decide)
  have less : (⟨0x3fb999999999999a⟩ : Binary64).value < (⟨0x3fb999999999999b⟩ : Binary64).value :=
    Binary64.value_lt_iff.mpr (by decide)
  exact less.ne (same.mp (by decide +kernel))

end Attest.Node
