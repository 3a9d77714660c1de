import Attest.Proofs.Document.Content
import Attest.Proofs.Document.Ordering
import Attest.Proofs.Language.Numerals
import Attest.Proofs.Number.Numerals
/-!
# Integers and numerals

Integers and numerals are equal and ordered as the numbers that they denote. The text of an integer
is a numeral for it, so either may stand for the other wherever nodes are compared.
-/

namespace Attest

namespace Number.Numeral

/-! ### The numeral of an integer -/

def ofInt (n : Int) : Numeral where
  sign := if n < 0 then .minus else .none
  whole := Nat.toDigits 10 n.natAbs
  fraction := none
  exponent := none
  areDropped := by
    intro c member
    have digit := Lexer.isDigit_of_mem_toDigits (List.append_nil _ ▸ member)
    rw [Decimal.isDropped, digit, Bool.true_or]
  starts := by
    rw [Option.getD_none, List.append_nil]
    cases digits : Nat.toDigits 10 n.natAbs with
    | nil => exact absurd digits Nat.toDigits_ne_nil
    | cons c cs => exact Lexer.isDigit_of_mem_toDigits (digits ▸ List.mem_cons_self)

theorem text_ofInt (n : Int) : (ofInt n).text = (toString n).toList := by
  rw [Lexer.toList_toString, text, body, ofInt]
  simp only [pointText, exponentText, List.append_nil]
  split <;> rfl

theorem coefficient_ofInt (n : Int) : (ofInt n).coefficient = n.natAbs := by
  have digits : (Nat.toDigits 10 n.natAbs).filter Char.isDigit = Nat.toDigits 10 n.natAbs :=
    List.filter_eq_self.mpr fun _ member => Lexer.isDigit_of_mem_toDigits member
  rw [coefficient, ofInt, Option.getD_none, List.append_nil, digits, Lexer.digitsValue_toDigits]

theorem read_ofInt {n : Int} (small : n.natAbs < Decimal.coefficientBound) :
    Decimal.read (toString n).toList = some (.ofInt n) := by
  have fits : (ofInt n).Fits := ⟨Nat.zero_le _, by rwa [coefficient_ofInt]⟩
  rw [← text_ofInt, Decimal.read_text _ fits, coefficient_ofInt]
  show some (Decimal.ofMagnitude (if n < 0 then Sign.minus else .none).isMinus n.natAbs 0) = _
  rw [Decimal.ofMagnitude, Decimal.ofInt]
  congr 2
  split
  · next negative =>
    rw [Sign.isMinus, if_pos rfl]
    omega
  · next positive =>
    rw [Sign.isMinus, if_neg (by decide)]
    omega

end Number.Numeral

open Number

namespace Node

variable {a b x : Node} {p q : ℚ} {d e : Decimal} {n : Int} {s t : String}

/-! ### What is denoted -/

/-- The number that an integer or a numeral denotes. -/
inductive Denotes : Node → ℚ → Prop
  | integer (n : Int) : Denotes (integer n) n
  | numeral {text : String} {m : Numeral} (trimmed : Unicode.trimChars text.toList = m.text)
      (accepted : (numeral? text).isSome = true) (fits : m.Fits) : Denotes (string text) m.value

/-- A numeral within the bounds is accepted, unless by its exponent. -/
theorem Denotes.positional {m : Numeral} (trimmed : Unicode.trimChars s.toList = m.text)
    (plain : m.exponent = none) (fits : m.Fits) : Denotes (string s) m.value := by
  refine .numeral trimmed ?_ fits
  rw [numeral?, trimmed, Decimal.read_text m fits, plain]
  rfl

theorem Denotes.exists_ordinal? (denotes : Denotes a p) : ∃ d, a.ordinal? = some d ∧ d.value = p := by
  cases denotes with
  | integer n => exact ⟨.ofInt n, rfl, Decimal.value_ofInt n⟩
  | numeral trimmed accepted fits =>
    obtain ⟨d, read⟩ := Option.isSome_iff_exists.mp accepted
    refine ⟨d, read, ?_⟩
    rw [numeral?, trimmed] at read
    exact Decimal.value_of_read fits read

/-! ### Comparison by value -/

/-- Integers and numerals compare as the numbers that they denote. -/
theorem order?_of_denotes (first : Denotes a p) (second : Denotes b q) :
    (a.looseEquals b = true ↔ p = q) ∧ a.order? b = some (compare p q) := by
  obtain ⟨d, here, rfl⟩ := first.exists_ordinal?
  obtain ⟨e, there, rfl⟩ := second.exists_ordinal?
  rw [looseEquals_of_ordinal? here there, Decimal.same_iff]
  exact ⟨.rfl, order?_of_ordinal? here there⟩

theorem order?_of_denotes_padded :
    let m : Numeral :=
      ⟨.minus, ['3'], some ['0', '0', '_'], none, List.all_eq_true.mp rfl, by decide⟩
    let a := integer (-3)
    let b := string " -3.00_ "
    Denotes a (-3 : ℤ) ∧ Denotes b m.value ∧ (a.looseEquals b = true ↔ ((-3 : ℤ) : ℚ) = m.value) ∧
      a.order? b = some (compare ((-3 : ℤ) : ℚ) m.value) := by
  intro m a b
  have first : Denotes a (-3 : ℤ) := .integer (-3)
  have second : Denotes b m.value :=
    .positional (by decide +kernel) rfl ⟨by decide, by decide⟩
  exact ⟨first, second, order?_of_denotes first second⟩

/-! ### The text of an integer -/

theorem trimChars_eq_self {cs : List Char} (plain : ∀ c ∈ cs, Unicode.isBlank c = false) :
    Unicode.trimChars cs = cs := by
  have unchanged (ds : List Char) (each : ∀ c ∈ ds, Unicode.isBlank c = false) :
      ds.dropWhile Unicode.isBlank = ds := by
    cases ds with
    | nil => rfl
    | cons d ds => rw [List.dropWhile_cons, each d List.mem_cons_self, if_neg (by decide)]
  rw [Unicode.trimChars, unchanged cs plain, unchanged cs.reverse fun c member =>
    plain c (List.mem_reverse.mp member), List.reverse_reverse]

theorem numeral?_toString (fits : (integer n).FitsWord) :
    numeral? (toString n) = some (.ofInt n) := by
  have small : n.natAbs < Decimal.coefficientBound := by
    unfold FitsWord minInteger maxInteger at fits
    unfold Decimal.coefficientBound
    omega
  have plain : ∀ c ∈ (toString n).toList, Unicode.isBlank c = false := by
    intro c member
    have solid := List.all_eq_true.mp (Lexer.solid_integer n) c member
    simp only [Lexer.isSolid, Bool.and_eq_true, Bool.not_eq_true'] at solid
    exact solid.1.1
  rw [numeral?, trimChars_eq_self plain, Numeral.read_ofInt small]

theorem ordinal?_toString (fits : (integer n).FitsWord) :
    (string (toString n)).ordinal? = (integer n).ordinal? :=
  numeral?_toString fits

/-! ### Equality either way -/

theorem same_comm (d e : Decimal) : d.same e = e.same d :=
  Bool.beq_comm

theorem textsEqual_comm (s t : String) : textsEqual s t = textsEqual t s := by
  unfold textsEqual
  cases numeral? s <;> cases numeral? t
  · exact Bool.beq_comm
  · exact Bool.beq_comm
  · exact Bool.beq_comm
  · exact same_comm _ _

theorem numbersEqual_comm (a b : Node) : numbersEqual a b = numbersEqual b a := by
  have turned : (binaryOrder? b a == some .eq) = (binaryOrder? a b == some .eq) := by
    rw [binaryOrder?_swap]
    cases binaryOrder? a b with
    | none => rfl
    | some o => cases o <;> rfl
  unfold numbersEqual
  cases a.number? <;> cases b.number?
  · exact turned.symm
  · exact turned.symm
  · exact turned.symm
  · exact same_comm _ _

theorem looseEquals_comm_integer (n : Int) (x : Node) :
    x.looseEquals (integer n) = (integer n).looseEquals x := by
  cases x with
  | integer m =>
    rw [looseEquals, looseEquals]
    exact numbersEqual_comm _ _
  | float y =>
    rw [looseEquals, looseEquals]
    exact numbersEqual_comm _ _
  | _ => rfl

theorem looseEquals_comm_string (s : String) (x : Node) :
    x.looseEquals (string s) = (string s).looseEquals x := by
  cases x with
  | string t =>
    rw [looseEquals, looseEquals]
    exact textsEqual_comm _ _
  | _ => rfl

/-! ### Either for the other -/

/-- An integer of 64 bits is not as far out as a binary number without decimal. -/
theorem numbersEqual_of_missing (fits : (integer n).FitsWord) {y : Binary64}
    (missing : Decimal.ofBinary64? y = none) : numbersEqual (integer n) (float y) = false := by
  have unread : (float y).number? = none := missing
  have apart : binaryOrder? (integer n) (float y) ≠ some .eq := by
    intro equal
    have alike := isSome_of_binaryOrder? fits (b := float y) trivial equal
    rw [unread] at alike
    cases alike
  rw [numbersEqual_of_apart (.inr unread)]
  exact beq_eq_false_iff_ne.mpr apart

theorem looseEquals_toString (fits : (integer n).FitsWord) (x : Node) :
    (string (toString n)).looseEquals x = (integer n).looseEquals x := by
  have numeral := numeral?_toString fits
  have text : (string (toString n)).ordinal? = some (.ofInt n) := numeral
  have number : (integer n).ordinal? = some (.ofInt n) := rfl
  cases x with
  | boolean b =>
    have spelled : booleanText? (toString n) ≠ some b := by
      intro given
      rw [booleanText?_eq_some.mp given, numeral?_boolean] at numeral
      cases numeral
    exact beq_eq_false_iff_ne.mpr spelled
  | string t =>
    cases other : numeral? t with
    | some e =>
      have value : (string t).ordinal? = some e := other
      rw [looseEquals_of_ordinal? text value, looseEquals_of_ordinal? number value]
    | none =>
      have differs : toString n ≠ t := by
        rintro rfl
        rw [numeral] at other
        cases other
      rw [looseEquals, looseEquals, textsEqual_of_apart (.inr other), numberEqualsText, other]
      exact beq_eq_false_iff_ne.mpr differs
  | integer m =>
    have value : (integer m).ordinal? = some (.ofInt m) := rfl
    rw [looseEquals_of_ordinal? text value, looseEquals_of_ordinal? number value]
  | float y =>
    rw [looseEquals, looseEquals, numberEqualsText, numeral, number?]
    cases other : Decimal.ofBinary64? y with
    | some e =>
      rw [numbersEqual, number?, number?, other]
      exact same_comm _ _
    | none => exact (numbersEqual_of_missing fits other).symm
  | _ => rfl

/-- A number with a decimal, or the numeral of one. -/
def IsNumeric (x : Node) : Prop :=
  (∃ d, x.number? = some d) ∨ ∃ text d, x = string text ∧ numeral? text = some d

theorem IsNumeric.exists_ordinal? (numeric : x.IsNumeric) : ∃ d, x.ordinal? = some d := by
  rcases numeric with ⟨d, number⟩ | ⟨text, d, rfl, numeral⟩
  · cases x with
    | string text => cases number
    | _ => exact ⟨d, number⟩
  · exact ⟨d, numeral⟩

/-- An integer of 64 bits and its text are equal to the same nodes, and ordered alike among
numbers and numerals. -/
theorem integer_exchanged (fits : (integer n).FitsWord) (x : Node) :
    (integer n).looseEquals x = (string (toString n)).looseEquals x ∧
      x.looseEquals (integer n) = x.looseEquals (string (toString n)) ∧
      (x.IsNumeric → (integer n).order? x = (string (toString n)).order? x ∧
        x.order? (integer n) = x.order? (string (toString n))) := by
  have equal := looseEquals_toString fits x
  refine ⟨equal.symm, ?_, fun numeric => ?_⟩
  · rw [looseEquals_comm_integer, looseEquals_comm_string, equal]
  · obtain ⟨d, value⟩ := numeric.exists_ordinal?
    have text := ordinal?_toString fits
    constructor
    · rw [order?, order?, text, value]
      rfl
    · rw [order?, order?, text, value]
      rfl

theorem integer_exchanged_least :
    let a := integer (-9223372036854775808)
    let b := string (toString (-9223372036854775808 : Int))
    let x := string "-9223372036854775808.0"
    a.FitsWord ∧ x.IsNumeric ∧ a.looseEquals x = b.looseEquals x ∧
      x.looseEquals a = x.looseEquals b ∧ a.order? x = b.order? x ∧ x.order? a = x.order? b := by
  intro a b x
  have fits : a.FitsWord := by unfold FitsWord; decide
  have numeric : x.IsNumeric := .inr ⟨_, ⟨-92233720368547758080, 1⟩, rfl, by decide +kernel⟩
  obtain ⟨left, right, orders⟩ := integer_exchanged fits x
  exact ⟨fits, numeric, left, right, orders numeric⟩

end Node

end Attest
