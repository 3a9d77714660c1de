import Attest.Language.Literal
import Attest.Proofs.Language.Words
/-!
# Numerals

A numeral that stands alone reads as the same number before a boundary. The texts of integers and
floats are free of blanks.
-/

namespace Attest

namespace Lexer

/-! ### Numerals -/

theorem tokenAt_of_isDigit {c : Char} (digit : c.isDigit) (rest : List Char) :
    tokenAt c rest = ((numeral false (c :: rest)).token, (numeral false (c :: rest)).text) := by
  have ordinary : c ∉ specials := by
    intro special
    have separate : specials.all (!·.isDigit) := by decide
    have apart := List.all_eq_true.mp separate c special
    simp [digit] at apart
  rw [tokenAt_of_ordinary ordinary]
  simp [digit]

theorem tokenAt_minus {rest : List Char} (digit : rest.head?.any Char.isDigit) :
    tokenAt '-' rest = ((numeral true rest).token, (numeral true rest).text) := by
  have mark : punctuation? '-' = none := by decide
  simp [tokenAt, mark, digit]

end Lexer

/-- The token is an integer or a float. -/
def Token.isNumber : Token → Bool
  | .integer _ | .float _ => true
  | _ => false

namespace Lexer

theorem punctuation?_not_number {c : Char} {t : Token} (mark : punctuation? c = some t) :
    t.isNumber = false := by
  unfold punctuation? at mark
  split at mark <;> cases mark <;> rfl

theorem Body.token_not_number (b : Body) : b.token.isNumber = false := by
  unfold Body.token
  split <;> rfl

theorem word_not_number (word : String) :
    ((keyword? word).getD (.identifier word)).isNumber = false := by
  unfold keyword?
  split <;> rfl

theorem number_start {c : Char} {rest : List Char} (number : (tokenAt c rest).1.isNumber) :
    c.isDigit ∨ c = '-' ∧ rest.head?.any Char.isDigit := by
  unfold tokenAt at number
  split at number
  · split at number <;> cases number
  · split at number
    · next t mark =>
      rw [punctuation?_not_number mark] at number
      cases number
    · split at number
      · rw [Body.token_not_number] at number
        cases number
      · split at number
        · next minus =>
          simp only [Bool.and_eq_true, decide_eq_true_eq] at minus
          exact .inr minus
        · split at number
          · next digit => exact .inl digit
          · split at number
            · rw [word_not_number] at number
              cases number
            · cases number

theorem numeral_prefix (cs : List Char) : ∃ after, cs = (numeral false cs).text ++ after := by
  have whole : cs.takeWhile Char.isDigit ++ cs.dropWhile Char.isDigit = cs :=
    List.takeWhile_append_dropWhile
  unfold numeral Numeral.text fraction
  split
  · next f point =>
    rw [point] at whole
    cases noDigits : (f.takeWhile Char.isDigit).isEmpty with
    | true => exact ⟨'.' :: f, by simp [whole]⟩
    | false => exact ⟨f.dropWhile Char.isDigit, by simp [whole]⟩
  · exact ⟨cs.dropWhile Char.isDigit, by simp⟩

/-- A numeral is not longer before a boundary. -/
theorem numeral_append {cs rest : List Char} (whole : (numeral false cs).text = cs)
    (boundary : Boundary rest) (negative : Bool) :
    numeral negative (cs ++ rest) = numeral negative cs := by
  have split : cs.takeWhile Char.isDigit ++ cs.dropWhile Char.isDigit = cs :=
    List.takeWhile_append_dropWhile
  have digits : ∀ c ∈ cs.takeWhile Char.isDigit, c.isDigit := List.all_eq_true.mp List.all_takeWhile
  have covers : (if (fraction (cs.dropWhile Char.isDigit)).isEmpty then []
      else '.' :: fraction (cs.dropWhile Char.isDigit)) = cs.dropWhile Char.isDigit :=
    List.append_cancel_left (whole.trans split.symm)
  unfold numeral
  generalize cs.takeWhile Char.isDigit = whole at split digits ⊢
  generalize cs.dropWhile Char.isDigit = after at split covers ⊢
  rw [← split, List.append_assoc, List.takeWhile_append_of_pos digits,
    List.dropWhile_append_of_pos digits]
  -- After the digits there is nothing, or a point and the digits of the fraction.
  split at covers
  · subst after
    rw [List.nil_append, boundary.takeWhile_isDigit, boundary.dropWhile_isDigit,
      boundary.fraction_eq_nil]
    simp [fraction]
  · generalize place : fraction after = f at covers ⊢
    subst after
    have allDigits : f.takeWhile Char.isDigit = f := place
    have every : ∀ c ∈ f, c.isDigit := by
      rw [← allDigits]
      exact List.all_eq_true.mp List.all_takeWhile
    have longer : fraction ('.' :: f ++ rest) = f := by
      show (f ++ rest).takeWhile Char.isDigit = f
      rw [List.takeWhile_append_of_pos every, boundary.takeWhile_isDigit, List.append_nil]
    have point : Char.isDigit '.' = false := by decide
    simp [point]
    exact longer

theorem Reads.number {cs : List Char} {t : Token} (solid : cs.all isSolid)
    (number : t.isNumber) (alone : token? cs = some (t, [])) : Reads cs [t] := by
  intro rest boundary
  cases cs with
  | nil => cases alone
  | cons c cs =>
    have first := List.all_eq_true.mp solid c List.mem_cons_self
    rw [token?_of_isSolid first, Option.some.injEq, Prod.mk.injEq] at alone
    obtain ⟨token, covers⟩ := alone
    refine .single ?_
    rw [List.cons_append, token?_of_isSolid first]
    rw [← token] at number
    rcases number_start number with digit | ⟨rfl, digit⟩
    · rw [tokenAt_of_isDigit digit] at token covers ⊢
      obtain ⟨after, split⟩ := numeral_prefix (c :: cs)
      have whole := eq_of_drop_length split covers
      rw [← List.cons_append, numeral_append whole boundary, whole, token, List.drop_left]
    · have longer : (cs ++ rest).head?.any Char.isDigit := by
        cases cs with
        | nil => cases digit
        | cons d cs => exact digit
      rw [tokenAt_minus digit] at token covers
      rw [tokenAt_minus longer]
      obtain ⟨after, split⟩ := numeral_prefix cs
      have whole := eq_of_drop_length split covers
      have text : (numeral true cs).text = '-' :: cs := congrArg ('-' :: ·) whole
      rw [numeral_append whole boundary, text, token, ← List.cons_append, List.drop_left]

/-! ### Texts of numbers -/

theorem isDigit_of_mem_toDigits {c : Char} {n : Nat} (member : c ∈ Nat.toDigits 10 n) : c.isDigit :=
  Nat.isDigit_of_mem_toDigits (by decide) (by decide) member

theorem digitsValue_toDigits (n : Nat) : Number.digitsValue (Nat.toDigits 10 n) = n := by
  have same :
      Number.digitsValue (Nat.toDigits 10 n) = Nat.ofDigitChars 10 (Nat.toDigits 10 n) 0 := by
    unfold Number.digitsValue Nat.ofDigitChars Number.digitValue
    simp only [Nat.mul_comm]
  rw [same, Nat.ofDigitChars_ten_toDigits]

theorem Reads.index {n : Nat} (small : (n : Int) ≤ Number.maxInteger) :
    Reads (toString n).toList [.integer n] := by
  have form : (toString n).toList = Nat.toDigits 10 n := Nat.toList_repr
  rw [form]
  have digits : ∀ c ∈ Nat.toDigits 10 n, c.isDigit := fun c => isDigit_of_mem_toDigits
  have value := digitsValue_toDigits n
  refine .number (List.all_eq_true.mpr fun c member => isSolid_of_isDigit (digits c member)) rfl ?_
  have nonempty : Nat.toDigits 10 n ≠ [] := Nat.toDigits_ne_nil
  generalize Nat.toDigits 10 n = cs at digits value nonempty
  cases cs with
  | nil => exact absurd rfl nonempty
  | cons c cs =>
    have digit := digits c List.mem_cons_self
    have least : Number.minInteger ≤ (n : Int) := by
      unfold Number.minInteger
      omega
    have whole : numeral false (c :: cs) = ⟨false, c :: cs, []⟩ := by
      have allDigits : (c :: cs).takeWhile Char.isDigit = c :: cs := by
        rw [← List.append_nil (c :: cs), List.takeWhile_append_of_pos digits, List.takeWhile_nil]
      have noRest : (c :: cs).dropWhile Char.isDigit = [] := by
        rw [← List.append_nil (c :: cs), List.dropWhile_append_of_pos digits, List.dropWhile_nil]
      simp [numeral, allDigits, noRest, fraction]
    rw [token?_of_isSolid (isSolid_of_isDigit digit), tokenAt_of_isDigit digit, whole]
    simp [Numeral.token, Numeral.text, value, small, least]

/-! ### Texts without blanks -/

theorem solid_toDigits (n : Nat) : (Nat.toDigits 10 n).all isSolid :=
  List.all_eq_true.mpr fun _ member => isSolid_of_isDigit (isDigit_of_mem_toDigits member)

theorem toList_toString (v : Int) :
    (toString v).toList = (if v < 0 then ['-'] else []) ++ Nat.toDigits 10 v.natAbs := by
  cases v with
  | ofNat n =>
    rw [if_neg (by simp)]
    exact Nat.toList_repr
  | negSucc n =>
    rw [if_pos (Int.negSucc_lt_zero n), Int.toString_eq_repr, Int.repr, String.toList_append,
      Nat.toList_repr]
    rfl

theorem solid_integer (v : Int) : (toString v).toList.all isSolid := by
  have sign : (if v < 0 then ['-'] else []).all isSolid := by split <;> decide
  rw [toList_toString, List.all_append, sign, solid_toDigits]
  rfl

theorem solid_take {cs : List Char} (solid : cs.all isSolid) (n : Nat) : (cs.take n).all isSolid :=
  List.all_eq_true.mpr fun c member => List.all_eq_true.mp solid c (List.mem_of_mem_take member)

theorem solid_drop {cs : List Char} (solid : cs.all isSolid) (n : Nat) : (cs.drop n).all isSolid :=
  List.all_eq_true.mpr fun c member => List.all_eq_true.mp solid c (List.mem_of_mem_drop member)

section

variable {style : Number.FloatStyle} {digits : List Char} {point : Int}

theorem solid_positional (solid : digits.all isSolid) :
    (style.positionalText digits point).all isSolid := by
  have zero : isSolid '0' := by decide
  have dot : isSolid '.' := by decide
  have zeros (count : Nat) : (List.replicate count '0').all isSolid := by simp [zero]
  unfold Number.FloatStyle.positionalText
  split
  · rw [List.all_append, List.all_append, zeros, solid]
    decide
  · split
    · have ending : (if style.keepsPoint then ['.', '0'] else []).all isSolid := by split <;> decide
      rw [List.all_append, List.all_append, solid, zeros, ending]
      rfl
    · rw [List.all_append, List.all_append, solid_take solid, solid_drop solid]
      simp [dot]

theorem solid_exponent (solid : digits.all isSolid) :
    (style.exponentText digits point).all isSolid := by
  have mark : ['e'].all isSolid := by decide
  have sign :
      (if point - 1 < 0 then ['-'] else if style.plusSign then ['+'] else []).all isSolid := by
    repeat' split
    all_goals decide
  have later := solid_drop solid 1
  unfold Number.FloatStyle.exponentText
  dsimp only
  rw [List.all_append, List.all_append, List.all_append, List.all_append, solid_take solid, mark,
    sign, solid_toDigits]
  split
  · rfl
  · have dot : isSolid '.' := by decide
    rw [List.all_cons, dot, later]
    rfl

/-- The text of a float is free of blanks and comments. -/
theorem solid_float (x : Number.Binary64) : (style.text x).toList.all isSolid := by
  have sign : (if x.isNegative then ['-'] else []).all isSolid := by split <;> decide
  have infinite : ['i', 'n', 'f'].all isSolid := by decide
  have magnitude : (style.magnitudeText x).all isSolid := by
    unfold Number.FloatStyle.magnitudeText
    split
    · split <;> decide
    · dsimp only
      split
      · exact solid_positional (solid_toDigits _)
      · exact solid_exponent (solid_toDigits _)
  unfold Number.FloatStyle.text
  dsimp only
  split
  · decide
  · split
    · rw [String.toList_ofList, List.all_append, sign, infinite]
      rfl
    · rw [String.toList_ofList, List.all_append, sign, magnitude]
      rfl

end

end Lexer

end Attest
