import Attest.Proofs.Language.Numerals
import Attest.Proofs.Number.Plain
/-!
# Texts of floats

The positional text of a float is a numeral that is rounded to the float again. A text with an
exponent is no numeral, and neither are those of the infinities.
-/

namespace Attest

open Number

/-! ### Values of digits -/

namespace Number

theorem foldl_digits (cs : List Char) (n : ℕ) :
    cs.foldl (fun n c => n * 10 + digitValue c) n = n * 10 ^ cs.length + digitsValue cs := by
  induction cs generalizing n with
  | nil => simp [digitsValue]
  | cons c cs ih =>
    rw [digitsValue, List.foldl_cons, List.foldl_cons, ih, ih (0 * 10 + digitValue c),
      List.length_cons, Nat.pow_succ']
    ring

theorem digitsValue_append (first second : List Char) :
    digitsValue (first ++ second) = digitsValue first * 10 ^ second.length + digitsValue second := by
  rw [digitsValue, List.foldl_append, foldl_digits second]
  rfl

theorem digitsValue_zeros (count : ℕ) : digitsValue (List.replicate count '0') = 0 := by
  induction count with
  | zero => rfl
  | succ count ih =>
    have zero : digitsValue ['0'] = 0 := by decide
    rw [List.replicate_succ, ← List.singleton_append, digitsValue_append, zero, ih, Nat.zero_mul]

end Number

namespace Lexer

/-! ### Numerals before boundaries -/

theorem numeral_parts {whole fraction rest : List Char} (digits : ∀ c ∈ whole, c.isDigit = true)
    (places : ∀ c ∈ fraction, c.isDigit = true) (boundary : Boundary rest) (negative : Bool) :
    Lexer.numeral negative
        (whole ++ (if fraction.isEmpty then [] else '.' :: fraction) ++ rest) =
      ⟨negative, whole, fraction⟩ := by
  rw [Lexer.numeral, List.append_assoc, List.takeWhile_append_of_pos digits,
    List.dropWhile_append_of_pos digits]
  split
  · next noFraction =>
    obtain rfl := List.isEmpty_iff.mp noFraction
    rw [List.nil_append, boundary.takeWhile_isDigit, boundary.dropWhile_isDigit,
      boundary.fraction_eq_nil, List.append_nil]
  · have point : Char.isDigit '.' = false := by decide
    have behind : Lexer.fraction ('.' :: fraction ++ rest) = fraction := by
      show (fraction ++ rest).takeWhile Char.isDigit = fraction
      rw [List.takeWhile_append_of_pos places, boundary.takeWhile_isDigit, List.append_nil]
    rw [List.cons_append] at behind ⊢
    rw [List.takeWhile_cons_of_neg (by simp [point]), List.append_nil,
      List.dropWhile_cons_of_neg (by simp [point]), behind]

/-- A numeral is its token before a boundary. -/
theorem Reads.numeral {n : Lexer.Numeral} (nonempty : n.whole ≠ [])
    (digits : ∀ c ∈ n.whole, c.isDigit = true) (places : ∀ c ∈ n.fraction, c.isDigit = true) :
    Reads n.text [n.token] := by
  intro rest boundary
  have parts := numeral_parts digits places boundary n.negative
  obtain ⟨negative, whole, fraction⟩ := n
  obtain ⟨c, cs, rfl⟩ := List.exists_cons_of_ne_nil nonempty
  have digit : c.isDigit = true := digits c List.mem_cons_self
  refine .single ?_
  cases negative with
  | true =>
    have text : (Lexer.Numeral.mk true (c :: cs) fraction).text ++ rest =
        '-' :: (c :: cs ++ (if fraction.isEmpty then [] else '.' :: fraction) ++ rest) := by
      simp [Lexer.Numeral.text]
    have start : (c :: cs ++ (if fraction.isEmpty then [] else '.' :: fraction) ++
        rest).head?.any Char.isDigit := digit
    rw [text, token?_of_isSolid (by decide), tokenAt_minus start, parts, ← text, List.drop_left]
  | false =>
    have text : (Lexer.Numeral.mk false (c :: cs) fraction).text ++ rest =
        c :: (cs ++ (if fraction.isEmpty then [] else '.' :: fraction) ++ rest) := by
      simp [Lexer.Numeral.text]
    have whole : c :: (cs ++ (if fraction.isEmpty then [] else '.' :: fraction) ++ rest) =
        c :: cs ++ (if fraction.isEmpty then [] else '.' :: fraction) ++ rest := rfl
    rw [text, token?_of_isSolid (isSolid_of_isDigit digit), tokenAt_of_isDigit digit, whole, parts,
      ← whole, ← text, List.drop_left]

theorem reads_integer {v : Int} (least : minInteger ≤ v) (most : v ≤ maxInteger) :
    Reads (toString v).toList [.integer v] := by
  have reads := Reads.numeral (n := ⟨decide (v < 0), Nat.toDigits 10 v.natAbs, []⟩)
    Nat.toDigits_ne_nil (fun c => isDigit_of_mem_toDigits) (by simp)
  have value : (if v < 0 then -(v.natAbs : Int) else v.natAbs) = v := by
    split <;> omega
  have token : (Lexer.Numeral.mk (decide (v < 0)) (Nat.toDigits 10 v.natAbs) []).token =
      .integer v := by
    simp only [Lexer.Numeral.token, List.isEmpty_nil, if_true, digitsValue_toDigits,
      decide_eq_true_eq, value, least, most, decide_true, Bool.and_self]
  rw [token] at reads
  rw [toList_toString]
  simpa [Lexer.Numeral.text] using reads

/-! ### What a number is written with -/

/-- Digits, points and signs. -/
def isNumeric (c : Char) : Bool :=
  c.isDigit || c == '.' || c == '-'

theorem isNumeric_of_mem_text {n : Lexer.Numeral} (digits : n.whole.all Char.isDigit = true)
    (places : n.fraction.all Char.isDigit = true) : n.text.all isNumeric = true := by
  have numeric {cs : List Char} (digits : cs.all Char.isDigit = true) :
      cs.all isNumeric = true := by
    rw [List.all_eq_true] at digits ⊢
    intro c member
    rw [isNumeric, digits c member]
    rfl
  have sign : (if n.negative then ['-'] else []).all isNumeric = true := by split <;> decide
  unfold Lexer.Numeral.text
  rw [List.all_append, List.all_append, sign, numeric digits]
  split
  · rfl
  · have point : isNumeric '.' = true := by decide
    rw [List.all_cons, point, numeric places]
    rfl

theorem numeral_digits (negative : Bool) (cs : List Char) :
    (Lexer.numeral negative cs).whole.all Char.isDigit = true ∧
      (Lexer.numeral negative cs).fraction.all Char.isDigit = true := by
  refine ⟨List.all_takeWhile, ?_⟩
  unfold Lexer.numeral Lexer.fraction
  dsimp only
  split
  · exact List.all_takeWhile
  · rfl

/-- A text that is one number has no other characters. -/
theorem numeric_of_readsAs {text : String} {t : Token} (solid : text.toList.all isSolid = true)
    (reads : ReadsAs text [t]) (number : t.isNumber = true) :
    text.toList.all isNumeric = true := by
  have alone := token?_of_readsAs solid reads
  cases place : text.toList with
  | nil => rfl
  | cons c cs =>
    rw [place] at solid alone
    have first := List.all_eq_true.mp solid c List.mem_cons_self
    rw [token?_of_isSolid first, Option.some.injEq, Prod.mk.injEq] at alone
    obtain ⟨token, covers⟩ := alone
    rw [← token] at number
    rcases number_start number with digit | ⟨rfl, digit⟩
    · rw [tokenAt_of_isDigit digit] at covers
      obtain ⟨after, split⟩ := numeral_prefix (c :: cs)
      have digits := numeral_digits false (c :: cs)
      exact eq_of_drop_length split covers ▸ isNumeric_of_mem_text digits.1 digits.2
    · rw [tokenAt_minus digit] at covers
      obtain ⟨after, split⟩ := numeral_prefix cs
      have whole := eq_of_drop_length split covers
      have digits := numeral_digits false cs
      rw [← whole, List.all_cons, isNumeric_of_mem_text digits.1 digits.2]
      decide

end Lexer

/-! ### Positional texts -/

namespace Number.FloatStyle

/-- Digits on both sides of a point, and the number that they denote. -/
structure Positional (text : List Char) (v : ℚ) where
  whole : List Char
  fraction : List Char
  text_eq : text = whole ++ '.' :: fraction
  nonempty : whole ≠ []
  places : fraction ≠ []
  digits : ∀ c ∈ whole, c.isDigit = true
  behind : ∀ c ∈ fraction, c.isDigit = true
  value_eq : (digitsValue (whole ++ fraction) : ℚ) / 10 ^ fraction.length = v

variable {style : FloatStyle} {digits : List Char} {count : ℕ}

theorem forall_mem_zeros (areDigits : ∀ c ∈ digits, c.isDigit = true) (count : ℕ) :
    ∀ c ∈ List.replicate count '0' ++ digits, c.isDigit = true := by
  intro c member
  rcases List.mem_append.mp member with zero | digit
  · rw [List.eq_of_mem_replicate zero]
    rfl
  · exact areDigits c digit

theorem zero_isDigit : ∀ c ∈ ['0'], c.isDigit = true :=
  List.forall_mem_singleton.mpr rfl

/-- All digits behind the point, after zeros. -/
def Positional.below (nonempty : digits ≠ []) (areDigits : ∀ c ∈ digits, c.isDigit = true)
    (count : ℕ) : Positional ('0' :: '.' :: (List.replicate count '0' ++ digits))
      (digitsValue digits * 10 ^ (-(count : ℤ) - digits.length)) where
  whole := ['0']
  fraction := List.replicate count '0' ++ digits
  text_eq := rfl
  nonempty := by simp
  places := by simp [nonempty]
  digits := zero_isDigit
  behind := forall_mem_zeros areDigits count
  value_eq := by
    have zeros : ['0'] ++ (List.replicate count '0' ++ digits) =
        List.replicate (count + 1) '0' ++ digits := rfl
    have places : -(count : ℤ) - digits.length =
        -((List.replicate count '0' ++ digits).length : ℤ) := by
      rw [List.length_append, List.length_replicate]
      omega
    rw [zeros, digitsValue_append, digitsValue_zeros, Nat.zero_mul, Nat.zero_add, places, zpow_neg,
      zpow_natCast, div_eq_mul_inv]

/-- All digits before the point, with zeros after them. -/
def Positional.above (nonempty : digits ≠ []) (areDigits : ∀ c ∈ digits, c.isDigit = true)
    (count : ℕ) : Positional (digits ++ List.replicate count '0' ++ ['.', '0'])
      (digitsValue digits * 10 ^ count) where
  whole := digits ++ List.replicate count '0'
  fraction := ['0']
  text_eq := rfl
  nonempty := by simp [nonempty]
  places := by simp
  digits := by
    intro c member
    exact forall_mem_zeros areDigits count c
      (List.mem_append.mpr (List.mem_append.mp member).symm)
  behind := zero_isDigit
  value_eq := by
    have zero : digitsValue ['0'] = 0 := by decide
    rw [digitsValue_append, digitsValue_append, digitsValue_zeros, zero, List.length_replicate]
    push_cast
    rw [List.length_singleton, pow_one, add_zero, add_zero, mul_div_cancel_right₀ _ (by norm_num)]

/-- Some digits on each side of the point. -/
def Positional.between (areDigits : ∀ c ∈ digits, c.isDigit = true) (least : 0 < count)
    (most : count < digits.length) : Positional (digits.take count ++ ['.'] ++ digits.drop count)
      (digitsValue digits * 10 ^ ((count : ℤ) - digits.length)) where
  whole := digits.take count
  fraction := digits.drop count
  text_eq := by simp
  nonempty empty := by
    have length := congrArg List.length empty
    rw [List.length_take, List.length_nil] at length
    omega
  places empty := by
    have length := congrArg List.length empty
    rw [List.length_drop, List.length_nil] at length
    omega
  digits c member := areDigits c (List.mem_of_mem_take member)
  behind c member := areDigits c (List.mem_of_mem_drop member)
  value_eq := by
    have places : (count : ℤ) - digits.length = -((digits.drop count).length : ℤ) := by
      rw [List.length_drop]
      omega
    rw [List.take_append_drop, places, zpow_neg, zpow_natCast, div_eq_mul_inv]

theorem exists_positional (keeps : style.keepsPoint = true) (nonempty : digits ≠ [])
    (areDigits : ∀ c ∈ digits, c.isDigit = true) (point : ℤ) :
    Nonempty (Positional (style.positionalText digits point)
      (digitsValue digits * 10 ^ (point - digits.length))) := by
  unfold positionalText
  split
  · obtain ⟨count, same⟩ := Int.eq_ofNat_of_zero_le (a := -point) (by omega)
    obtain rfl : point = -(count : ℤ) := by omega
    rw [neg_neg, Int.toNat_natCast]
    exact ⟨.below nonempty areDigits count⟩
  · obtain ⟨count, rfl⟩ := Int.eq_ofNat_of_zero_le (a := point) (by omega)
    rw [Int.toNat_natCast]
    split
    · next enough =>
      obtain ⟨zeros, rfl⟩ := Nat.exists_eq_add_of_le enough
      have power : ((digits.length + zeros : ℕ) : ℤ) - digits.length = (zeros : ℕ) := by omega
      rw [power, zpow_natCast, Nat.add_sub_cancel_left]
      exact ⟨.above nonempty areDigits zeros⟩
    · exact ⟨.between areDigits (by omega) (by omega)⟩

end Number.FloatStyle

/-! ### Plain floats -/

namespace Number.Binary64

variable {x : Binary64}

/-- The number is written without an exponent. -/
def IsPlain (x : Binary64) : Prop :=
  x.isFinite = true ∧ (x.size = 0 ∨ 1 / 10 ^ 4 ≤ x.size ∧ x.size < 10 ^ 16)

theorem ofDecimal_of_positional (finite : x.isFinite = true) (positive : 0 < x.magnitude)
    {text : List Char} {v : ℚ} (parts : FloatStyle.Positional text v) (covers : x.Covers v) :
    ofDecimal x.isNegative (digitsValue (parts.whole ++ parts.fraction)) parts.fraction.length =
      x := by
  have tens : ((tenTo parts.fraction.length : ℕ) : ℚ) = 10 ^ parts.fraction.length :=
    Nat.cast_pow 10 _
  have value : (digitsValue (parts.whole ++ parts.fraction) : ℚ) /
      (tenTo parts.fraction.length : ℕ) = v := by
    rw [tens]
    exact parts.value_eq
  have significant : 0 < digitsValue (parts.whole ++ parts.fraction) := by
    refine Nat.pos_of_ne_zero fun zero => ?_
    rw [zero, Nat.cast_zero, zero_div] at value
    exact absurd (covers.pos positive) (value ▸ lt_irrefl 0)
  rw [ofDecimal, ofRatio_of_covers finite significant (tenTo_pos _) (value.symm ▸ covers),
    ofMagnitude_magnitude]

end Number.Binary64

namespace Lexer

variable {x : Binary64}

theorem reads_positional {text : List Char} {v : ℚ} (parts : FloatStyle.Positional text v)
    (negative : Bool) :
    Reads ((if negative then ['-'] else []) ++ text)
      [.float (.ofDecimal negative (digitsValue (parts.whole ++ parts.fraction))
        parts.fraction.length)] := by
  obtain ⟨whole, fraction, rfl, nonempty, places, digits, behind, _⟩ := parts
  have reads := Reads.numeral (n := ⟨negative, whole, fraction⟩) nonempty digits behind
  have written : fraction.isEmpty = false := by simpa using places
  simpa [Lexer.Numeral.text, Lexer.Numeral.token, written] using reads

theorem toList_floatText (finite : x.isFinite = true) :
    (Literal.floatStyle.text x).toList =
      (if x.isNegative then ['-'] else []) ++ Literal.floatStyle.magnitudeText x := by
  have number := Binary64.not_isNaN finite
  have bounded : x.isInfinite = false := by
    have small : x.magnitude < Binary64.infiniteMagnitude := of_decide_eq_true finite
    simp [Binary64.isInfinite, small.ne]
  rw [FloatStyle.text, number, bounded]
  exact String.toList_ofList

/-- A zero is written with one place. -/
def zeroParts : FloatStyle.Positional ['0', '.', '0'] 0 where
  whole := ['0']
  fraction := ['0']
  text_eq := rfl
  nonempty := by simp
  places := by simp
  digits := FloatStyle.zero_isDigit
  behind := FloatStyle.zero_isDigit
  value_eq := by
    have zero : digitsValue (['0'] ++ ['0']) = 0 := by decide
    rw [zero, Nat.cast_zero, zero_div]

theorem reads_zero (zero : x.magnitude = 0) :
    Reads ((if x.isNegative then ['-'] else []) ++ ['0', '.', '0']) [.float x] := by
  have reads := reads_positional zeroParts x.isNegative
  have value : digitsValue (zeroParts.whole ++ zeroParts.fraction) = 0 := by decide
  have same := Binary64.ofMagnitude_magnitude x
  rw [zero] at same
  rwa [value, Binary64.ofDecimal, Binary64.ofRatio, if_pos rfl, same] at reads

theorem reads_nonzero (finite : x.isFinite = true) (positive : 0 < x.magnitude) (point : ℤ)
    (place : point = (Nat.toDigits 10 (x.shortest .up).digits).length +
      (x.shortest .up).exponent) :
    Reads ((if x.isNegative then ['-'] else []) ++
      Literal.floatStyle.positionalText (Nat.toDigits 10 (x.shortest .up).digits) point)
      [.float x] := by
  have keeps : Literal.floatStyle.keepsPoint = true := rfl
  obtain ⟨parts⟩ := FloatStyle.exists_positional keeps
    Nat.toDigits_ne_nil (fun c => isDigit_of_mem_toDigits (n := (x.shortest .up).digits)) point
  have exponent : point - (Nat.toDigits 10 (x.shortest .up).digits).length =
      (x.shortest .up).exponent := by omega
  have covers := Binary64.covers_shortest .up finite positive
  rw [Digits.value, ← digitsValue_toDigits (x.shortest .up).digits, ← exponent] at covers
  have reads := reads_positional parts x.isNegative
  rwa [Binary64.ofDecimal_of_positional finite positive parts covers] at reads

theorem reads_float (plain : x.IsPlain) : Reads (Literal.float x).text.toList [.float x] := by
  obtain ⟨finite, bounds⟩ := plain
  show Reads (Literal.floatStyle.text x).toList [.float x]
  rw [toList_floatText finite, FloatStyle.magnitudeText]
  by_cases zero : x.magnitude = 0
  · rw [if_pos zero]
    exact reads_zero zero
  · have positive : 0 < x.magnitude := Nat.pos_of_ne_zero zero
    have within := bounds.resolve_left (Binary64.size_pos positive).ne'
    have positional := (Binary64.isPositional_iff finite positive).mpr within
    rw [if_neg zero]
    dsimp only
    rw [show Literal.floatStyle.tie = .up from rfl, if_pos positional]
    exact reads_nonzero finite positive _ rfl

/-! ### Floats that are no numerals -/

theorem mem_exponentText (style : FloatStyle) (digits : List Char) (point : ℤ) :
    'e' ∈ style.exponentText digits point := by
  simp [FloatStyle.exponentText]

/-- Other floats are written with a letter. -/
theorem not_numeric_float (exotic : ¬ x.IsPlain) :
    (Literal.floatStyle.text x).toList.all isNumeric = false := by
  have letter {c : Char} (member : c ∈ (Literal.floatStyle.text x).toList)
      (other : isNumeric c = false) : (Literal.floatStyle.text x).toList.all isNumeric = false :=
    List.all_eq_false.mpr ⟨c, member, by simp [other]⟩
  by_cases finite : x.isFinite = true
  · refine letter (c := 'e') ?_ (by decide)
    have size : ¬ (x.size = 0 ∨ 1 / 10 ^ 4 ≤ x.size ∧ x.size < 10 ^ 16) :=
      fun bounds => exotic ⟨finite, bounds⟩
    obtain ⟨nonzero, outside⟩ := not_or.mp size
    have positive : 0 < x.magnitude :=
      Binary64.size_pos_iff.mp (lt_of_le_of_ne (Binary64.size_nonneg x) (Ne.symm nonzero))
    have exponent := (Binary64.isPositional_iff finite positive).not.mpr outside
    rw [toList_floatText finite, FloatStyle.magnitudeText, if_neg positive.ne']
    dsimp only
    rw [show Literal.floatStyle.tie = .up from rfl, if_neg exponent]
    exact List.mem_append_right _ (mem_exponentText _ _ _)
  · by_cases nan : x.isNaN = true
    · have text : Literal.floatStyle.text x = "NaN" := by rw [FloatStyle.text, if_pos nan]
      exact letter (c := 'N') (by simp [text]) (by decide)
    · have infinite : x.isInfinite = true := by
        simp only [Binary64.isFinite, Binary64.isNaN, Binary64.isInfinite, decide_eq_true_eq,
          beq_iff_eq] at finite nan ⊢
        omega
      have text : (Literal.floatStyle.text x).toList =
          (if x.isNegative then ['-'] else []) ++ ['i', 'n', 'f'] := by
        rw [FloatStyle.text, if_neg nan, if_pos infinite]
        exact String.toList_ofList
      exact letter (c := 'i') (by simp [text]) (by decide)

end Lexer

end Attest
