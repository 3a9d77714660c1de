import Attest.Proofs.Number.Decimal
import Mathlib.Tactic.NormNum
/-!
# Decimal numerals

A numeral is a sign, digits with a point and `_` among them, and an exponent; all but the digits may
be missing. With at most 28 places and a coefficient below `2 ^ 96` it is read as the number that it
denotes.
-/

namespace Attest.Number

/-! ### Numerals as they are written -/

inductive Sign
  | none
  | plus
  | minus

namespace Sign

def text : Sign → List Char
  | none => []
  | plus => ['+']
  | minus => ['-']

def isMinus : Sign → Bool
  | minus => true
  | none | plus => false

/-- One with the sign. -/
def unit (sign : Sign) : ℤ :=
  if sign.isMinus then -1 else 1

end Sign

structure Exponent where
  mark : Char
  sign : Sign
  digits : List Char
  isMark : Decimal.isExponentMark mark = true
  notEmpty : digits ≠ []
  areDigits : ∀ c ∈ digits, c.isDigit = true

namespace Exponent

def text (e : Exponent) : List Char :=
  e.mark :: (e.sign.text ++ e.digits)

def power (e : Exponent) : ℤ :=
  e.sign.unit * digitsValue e.digits

end Exponent

/-- Digits may have `_` behind them, and one point before, between or after them. -/
structure Numeral where
  sign : Sign
  whole : List Char
  /-- What is behind the point, if there is one. -/
  fraction : Option (List Char)
  exponent : Option Exponent
  areDropped : ∀ c ∈ whole ++ fraction.getD [], Decimal.isDropped c = true
  starts : (whole ++ fraction.getD []).head?.any Char.isDigit = true

namespace Numeral

/-- A point and the digits behind it. -/
def pointText : Option (List Char) → List Char
  | none => []
  | some digits => '.' :: digits

def exponentText : Option Exponent → List Char
  | none => []
  | some e => e.text

variable (m : Numeral)

def body : List Char :=
  m.whole ++ pointText m.fraction

def text : List Char :=
  m.sign.text ++ m.body ++ exponentText m.exponent

def coefficient : Nat :=
  digitsValue ((m.whole ++ m.fraction.getD []).filter Char.isDigit)

def places : Nat :=
  ((m.fraction.getD []).filter Char.isDigit).length

def power : ℤ :=
  m.exponent.elim 0 Exponent.power

/-- The number that a numeral denotes. -/
def value : ℚ :=
  m.sign.unit * m.coefficient * 10 ^ (m.power - m.places)

/-- The numeral has the digits that a decimal can hold. -/
def Fits : Prop :=
  m.places ≤ Decimal.maxScale ∧ m.coefficient < Decimal.coefficientBound

end Numeral

namespace Decimal

/-! ### Reading digits -/

section

variable {point seen : Bool} {coefficient scale : Nat} {c : Char} {cs rest : List Char}

/-- The digits behind a number, appended to it. -/
def appended (coefficient : Nat) (cs : List Char) : Nat :=
  (cs.filter Char.isDigit).foldl (fun n c => n * 10 + digitValue c) coefficient

theorem le_foldl_digits (cs : List Char) (n : Nat) :
    n ≤ cs.foldl (fun n c => n * 10 + digitValue c) n := by
  induction cs generalizing n with
  | nil => exact Nat.le_refl n
  | cons c cs ih =>
    have later := ih (n * 10 + digitValue c)
    rw [List.foldl_cons]
    omega

theorem appended_digit (digit : c.isDigit = true) :
    appended coefficient (c :: rest) = appended (coefficient * 10 + digitValue c) rest := by
  rw [appended, List.filter_cons_of_pos digit, List.foldl_cons, appended]

theorem appended_other (other : c.isDigit = false) :
    appended coefficient (c :: rest) = appended coefficient rest := by
  rw [appended, List.filter_cons_of_neg (by simp [other]), appended]

theorem le_appended (coefficient : Nat) (cs : List Char) :
    coefficient ≤ appended coefficient cs :=
  le_foldl_digits _ _

theorem eq_underscore (dropped : isDropped c = true) (other : c.isDigit = false) : c = '_' := by
  rw [isDropped, other, Bool.false_or, beq_iff_eq] at dropped
  exact dropped

/-- Behind the last place only `_` may follow. -/
theorem roundAt_of_no_digits (dropped : ∀ d ∈ c :: rest, isDropped d = true)
    (noDigits : (c :: rest).filter Char.isDigit = []) :
    roundAt coefficient scale c rest = some (coefficient, scale) := by
  have first := dropped c List.mem_cons_self
  have later : rest.all isDropped = true :=
    List.all_eq_true.mpr fun d member => dropped d (List.mem_cons_of_mem c member)
  have other : c.isDigit = false := by
    have each := List.filter_eq_nil_iff.mp noDigits c List.mem_cons_self
    simpa using each
  rw [roundAt, first, later, other]
  rfl

theorem readDigits_digit (digit : c.isDigit = true)
    (fits : coefficient * 10 + digitValue c < coefficientBound)
    (last : rest = [] ∨ point = false ∨ scale + 1 < maxScale) :
    readDigits point seen coefficient scale (c :: rest) =
      readDigits point true (coefficient * 10 + digitValue c)
        (if point then scale + 1 else scale) rest := by
  rw [readDigits, if_pos digit, if_neg (Nat.not_le_of_lt fits)]
  cases rest with
  | nil => rw [readDigits, if_pos rfl]
  | cons d ds =>
    rcases last with nothing | whole | room
    · cases nothing
    · subst whole
      rfl
    · cases point
      · rfl
      · simp [Nat.not_le_of_lt room]

theorem readDigits_last (digit : c.isDigit = true)
    (fits : coefficient * 10 + digitValue c < coefficientBound) (full : scale + 1 = maxScale)
    (dropped : ∀ d ∈ rest, isDropped d = true) (noDigits : rest.filter Char.isDigit = []) :
    readDigits true seen coefficient scale (c :: rest) =
      some (coefficient * 10 + digitValue c, scale + 1) := by
  rw [readDigits, if_pos digit, if_neg (Nat.not_le_of_lt fits)]
  cases rest with
  | nil => rfl
  | cons d ds =>
    dsimp only
    rw [if_pos rfl, if_pos (by simp [full]), roundAt_of_no_digits dropped noDigits]

theorem readDigits_underscore :
    readDigits point true coefficient scale ('_' :: rest) =
      readDigits point true coefficient scale rest := by
  have other : Char.isDigit '_' = false := by decide
  rw [readDigits, other]
  simp

theorem readDigits_point :
    readDigits false seen coefficient scale ('.' :: rest) =
      readDigits true seen coefficient scale rest := by
  have other : Char.isDigit '.' = false := by decide
  rw [readDigits, other]
  simp

/-- Behind the point, where all places are there. -/
theorem readDigits_fraction (dropped : ∀ c ∈ cs, isDropped c = true)
    (starts : seen = true ∨ cs.head?.any Char.isDigit = true)
    (fits : appended coefficient cs < coefficientBound)
    (places : scale + (cs.filter Char.isDigit).length ≤ maxScale) :
    readDigits true seen coefficient scale cs =
      some (appended coefficient cs, scale + (cs.filter Char.isDigit).length) := by
  induction cs generalizing seen coefficient scale with
  | nil =>
    have seen : seen = true := starts.resolve_right (by simp)
    rw [readDigits, if_pos seen]
    rfl
  | cons c cs ih =>
    have later : ∀ d ∈ cs, isDropped d = true :=
      fun d member => dropped d (List.mem_cons_of_mem c member)
    cases digit : c.isDigit with
    | true =>
      rw [appended_digit digit] at fits ⊢
      rw [List.filter_cons_of_pos digit, List.length_cons] at places ⊢
      have small := Nat.lt_of_le_of_lt (le_appended _ cs) fits
      by_cases room : scale + 1 < maxScale
      · rw [readDigits_digit digit small (.inr (.inr room)), if_pos rfl,
          ih later (.inl rfl) fits (by omega)]
        congr 2
        omega
      · have noDigits : cs.filter Char.isDigit = [] := List.eq_nil_of_length_eq_zero (by omega)
        rw [readDigits_last digit small (by omega) later noDigits, appended, noDigits]
        rfl
    | false =>
      obtain rfl := eq_underscore (dropped c List.mem_cons_self) digit
      have seen : seen = true := starts.resolve_right (by simp [digit])
      subst seen
      rw [appended_other digit] at fits ⊢
      rw [List.filter_cons_of_neg (by simp [digit])] at places ⊢
      rw [readDigits_underscore, ih later (.inl rfl) fits places]

theorem readDigits_body {fraction : Option (List Char)}
    (dropped : ∀ c ∈ cs ++ fraction.getD [], isDropped c = true)
    (starts : seen = true ∨ (cs ++ fraction.getD []).head?.any Char.isDigit = true)
    (fits : appended coefficient (cs ++ fraction.getD []) < coefficientBound)
    (places : ((fraction.getD []).filter Char.isDigit).length ≤ maxScale) :
    readDigits false seen coefficient 0 (cs ++ Numeral.pointText fraction) =
      some (appended coefficient (cs ++ fraction.getD []),
        ((fraction.getD []).filter Char.isDigit).length) := by
  induction cs generalizing seen coefficient with
  | nil =>
    cases fraction with
    | none =>
      have seen : seen = true := starts.resolve_right (by simp)
      rw [Numeral.pointText, List.append_nil, readDigits, if_pos seen]
      rfl
    | some digits =>
      rw [List.nil_append, Numeral.pointText, readDigits_point]
      have whole := readDigits_fraction dropped starts fits (by rwa [Nat.zero_add])
      rwa [Nat.zero_add] at whole
  | cons c cs ih =>
    have later : ∀ d ∈ cs ++ fraction.getD [], isDropped d = true :=
      fun d member => dropped d (List.mem_cons_of_mem c member)
    rw [List.cons_append] at fits ⊢
    cases digit : c.isDigit with
    | true =>
      rw [List.cons_append, appended_digit digit] at *
      have small := Nat.lt_of_le_of_lt (le_appended _ _) fits
      rw [readDigits_digit digit small (.inr (.inl rfl))]
      exact ih later (.inl rfl) fits
    | false =>
      obtain rfl := eq_underscore (dropped c List.mem_cons_self) digit
      have seen : seen = true := starts.resolve_right (by simp [digit])
      subst seen
      rw [List.cons_append, appended_other digit] at *
      rw [readDigits_underscore]
      exact ih later (.inl rfl) fits

end

/-! ### Reading numerals -/

theorem readPositional_signed (sign : Sign) {cs : List Char}
    (unsigned : ∀ c, cs.head? = some c → c ≠ '-' ∧ c ≠ '+') :
    readPositional (sign.text ++ cs) =
      (readDigits false false 0 0 cs).map fun (c, s) => ofMagnitude sign.isMinus c s := by
  cases sign with
  | minus => rfl
  | plus => rfl
  | none =>
    rw [Sign.text, List.nil_append]
    unfold readPositional
    split
    · exact absurd rfl (unsigned '-' rfl).1
    · exact absurd rfl (unsigned '+' rfl).2
    · rfl

theorem readPositional_body (m : Numeral) (fits : m.Fits) :
    readPositional (m.sign.text ++ m.body) =
      some (ofMagnitude m.sign.isMinus m.coefficient m.places) := by
  have unsigned : ∀ c, m.body.head? = some c → c ≠ '-' ∧ c ≠ '+' := by
    intro c first
    have starts := m.starts
    unfold Numeral.body at first
    cases whole : m.whole with
    | nil =>
      rw [whole] at first starts
      cases fraction : m.fraction with
      | none => simp [fraction] at starts
      | some digits =>
        rw [fraction] at first
        obtain rfl := Option.some.inj first
        decide
    | cons d ds =>
      rw [whole] at first starts
      obtain rfl := Option.some.inj first
      constructor
      · rintro rfl
        cases starts
      · rintro rfl
        cases starts
  rw [readPositional_signed _ unsigned, Numeral.body,
    readDigits_body m.areDropped (.inr m.starts) fits.2 fits.1]
  rfl

theorem not_isExponentMark_of_isDropped {c : Char} (dropped : isDropped c = true) :
    isExponentMark c = false := by
  cases mark : isExponentMark c with
  | false => rfl
  | true =>
    unfold isExponentMark at mark
    rw [Bool.or_eq_true, beq_iff_eq, beq_iff_eq] at mark
    rcases mark with rfl | rfl
    · cases dropped
    · cases dropped

theorem not_isExponentMark_of_mem {m : Numeral} {c : Char} (member : c ∈ m.sign.text ++ m.body) :
    (!isExponentMark c) = true := by
  have plain : isExponentMark c = false := by
    rcases List.mem_append.mp member with signed | inner
    · cases sign : m.sign with
      | none => simp [sign, Sign.text] at signed
      | plus =>
        obtain rfl : c = '+' := by simpa [sign, Sign.text] using signed
        decide
      | minus =>
        obtain rfl : c = '-' := by simpa [sign, Sign.text] using signed
        decide
    · rcases List.mem_append.mp inner with whole | behind
      · exact not_isExponentMark_of_isDropped (m.areDropped c (List.mem_append_left _ whole))
      · have dropped := fun given => m.areDropped c (List.mem_append_right m.whole given)
        cases fraction : m.fraction with
        | none => simp [fraction, Numeral.pointText] at behind
        | some digits =>
          rw [fraction] at behind dropped
          rcases List.mem_cons.mp behind with rfl | digit
          · decide
          · exact not_isExponentMark_of_isDropped (dropped digit)
  rw [plain]
  rfl

/-- A decimal times the power of ten of an exponent, if that is a decimal. -/
def shifted? (d : Decimal) : Option Exponent → Option Decimal
  | none => some d
  | some e =>
    if e.sign.isMinus then d.shiftRight (digitsValue e.digits) else d.shiftLeft (digitsValue e.digits)

theorem readCount_digits {digits : List Char} (notEmpty : digits ≠ [])
    (areDigits : ∀ c ∈ digits, c.isDigit = true) :
    readCount digits = some (digitsValue digits) ∧
      readCount ('+' :: digits) = some (digitsValue digits) := by
  have allDigits := List.all_eq_true.mpr areDigits
  cases digits with
  | nil => exact absurd rfl notEmpty
  | cons c cs =>
    have other : c ≠ '+' := by
      rintro rfl
      cases areDigits '+' List.mem_cons_self
    constructor
    · unfold readCount
      split
      · next same =>
        cases same
        exact absurd rfl other
      · simp only [List.isEmpty_cons, allDigits]
        rfl
    · simp only [readCount, List.isEmpty_cons, allDigits]
      rfl

/-- A numeral within the bounds is read, if its exponent leaves it within them. -/
theorem read_text (m : Numeral) (fits : m.Fits) :
    read m.text = shifted? (ofMagnitude m.sign.isMinus m.coefficient m.places) m.exponent := by
  have plain : ∀ c ∈ m.sign.text ++ m.body, (!isExponentMark c) = true :=
    fun c member => not_isExponentMark_of_mem member
  unfold read Numeral.text
  rw [List.takeWhile_append_of_pos plain, List.dropWhile_append_of_pos plain]
  cases m.exponent with
  | none =>
    rw [Numeral.exponentText, List.takeWhile_nil, List.append_nil, readPositional_body m fits]
    rfl
  | some e =>
    have mark : (!isExponentMark e.mark) = false := by rw [e.isMark]; rfl
    rw [Numeral.exponentText, Exponent.text, List.takeWhile_cons, mark, List.dropWhile_cons, mark,
      if_neg (by decide), if_neg (by decide), List.append_nil, readPositional_body m fits]
    obtain ⟨counted, afterPlus⟩ := readCount_digits e.notEmpty e.areDigits
    rw [shifted?]
    cases sign : e.sign with
    | minus =>
      show (readCount e.digits).bind (shiftRight _) = _
      rw [counted]
      rfl
    | plus =>
      show (readCount ('+' :: e.digits)).bind (shiftLeft _) = _
      rw [afterPlus]
      rfl
    | none =>
      rw [Sign.text, List.nil_append]
      split
      · next nothing => cases nothing
      · next same =>
        have digit := e.areDigits '-' (by simp [(List.cons.inj same).2])
        cases digit
      · next same =>
        obtain ⟨-, rfl⟩ := List.cons.inj same
        show (readCount e.digits).bind (shiftLeft _) = _
        rw [counted]
        rfl

/-! ### Values -/

variable {d e : Decimal}

theorem value_shiftRight {count : Nat} (shifted : d.shiftRight count = some e) :
    e.value = d.value * 10 ^ (-(count : ℤ)) := by
  unfold shiftRight at shifted
  split at shifted
  · obtain rfl := Option.some.inj shifted
    rw [value_eq, value_eq, mul_assoc, ← zpow_add₀ (by norm_num), Nat.cast_add, neg_add]
  · cases shifted

theorem value_shiftLeft {count : Nat} (shifted : d.shiftLeft count = some e) :
    e.value = d.value * 10 ^ (count : ℤ) := by
  unfold shiftLeft at shifted
  rw [value_eq d, mul_assoc, ← zpow_add₀ (by norm_num)]
  split at shifted
  · next within =>
    obtain rfl := Option.some.inj shifted
    rw [value_eq]
    dsimp only
    congr 2
    omega
  · next beyond =>
    split at shifted
    · cases shifted
    · dsimp only at shifted
      split at shifted
      · obtain rfl := Option.some.inj shifted
        have power : (count : ℤ) - d.scale = (count - d.scale : Nat) := by omega
        rw [value_eq, neg_add_eq_sub, power, zpow_natCast, tenTo]
        simp
      · cases shifted

theorem value_shifted? {exponent : Option Exponent} (shifted : shifted? d exponent = some e) :
    e.value = d.value * 10 ^ exponent.elim 0 Exponent.power := by
  cases exponent with
  | none =>
    obtain rfl := Option.some.inj shifted
    simp
  | some exponent =>
    rw [shifted?] at shifted
    rw [Option.elim_some, Exponent.power, Sign.unit]
    split at shifted
    · next minus => rw [value_shiftRight shifted, if_pos minus, neg_one_mul]
    · next plus => rw [value_shiftLeft shifted, if_neg plus, one_mul]

/-- What is read is the number that a numeral denotes. -/
theorem value_of_read {m : Numeral} (fits : m.Fits) (accepted : read m.text = some d) :
    d.value = m.value := by
  rw [read_text m fits] at accepted
  have sign : (m.sign.unit : ℚ) = if m.sign.isMinus then -1 else 1 := by
    unfold Sign.unit
    split <;> simp
  rw [value_shifted? accepted, value_ofMagnitude, Numeral.value, sign, ← mul_assoc, mul_assoc,
    ← zpow_add₀ (by norm_num), neg_add_eq_sub, Numeral.power]

end Decimal

end Attest.Number
