import Attest.Json.Reader
import Attest.Proofs.Language.Numerals
import Attest.Proofs.Number.Numerals
/-!
# Integers in JSON text

The reader takes the text of an integer of 64 bits, with or without a sign, as that integer,
wherever it stands and whatever follows that does not belong to the number.
-/

namespace Attest.JsonReader

variable {α β : Type} {place : JsonPlace} {blanks rest ahead ds : List Char} {c : Char} {n : Nat}
  {s t : JsonCursor} {a : α} {room : Nat}

/-! ### Steps of a reader -/

theorem bind_of_ok {reader : JsonReader α} (ran : reader s = .ok (a, t)) (next : α → JsonReader β) :
    (reader >>= next) s = next a t := by
  show Except.bind (reader s) _ = _
  rw [ran]
  rfl

theorem peek_eq (s : JsonCursor) : peek s = .ok (s.ahead.head?, s) := rfl

theorem get_eq (s : JsonCursor) : (get : JsonReader JsonCursor) s = .ok (s, s) := rfl

/-- Skipping leaves the rest, at some later place. -/
theorem exists_skip (place : JsonPlace) (taken : List Char) (rest : List Char) :
    ∃ later, skip taken.length ⟨place, taken ++ rest⟩ = .ok ((), ⟨later, rest⟩) := by
  have left : (taken ++ rest).drop taken.length = rest := List.drop_left
  exact ⟨_, congrArg (fun ahead => Except.ok ((), JsonCursor.mk _ ahead)) left⟩

theorem takeWhile_append {f : Char → Bool} (each : ∀ c ∈ ds, f c = true)
    (stops : ∀ c ∈ rest.head?, f c = false) : (ds ++ rest).takeWhile f = ds := by
  rw [List.takeWhile_append_of_pos each]
  cases rest with
  | nil => simp
  | cons c rest => rw [List.takeWhile_cons_of_neg (by simp [stops c rfl]), List.append_nil]

theorem exists_peekToken (place : JsonPlace) (areBlank : ∀ c ∈ blanks, isBlank c = true)
    (other : isBlank c = false) :
    ∃ later, peekToken ⟨place, blanks ++ c :: rest⟩ = .ok (some c, ⟨later, c :: rest⟩) := by
  obtain ⟨later, skipped⟩ := exists_skip place blanks (c :: rest)
  have stops : ∀ d ∈ (c :: rest).head?, isBlank d = false := by
    intro d first
    rw [← Option.some.inj (Option.mem_def.mp first)]
    exact other
  refine ⟨later, ?_⟩
  rw [peekToken, bind_of_ok (get_eq _), takeWhile_append areBlank stops, bind_of_ok skipped]
  rfl

theorem exists_digits (place : JsonPlace) (areDigits : ∀ c ∈ ds, c.isDigit = true)
    (stops : ∀ c ∈ rest.head?, c.isDigit = false) :
    ∃ later, digits ⟨place, ds ++ rest⟩ = .ok (ds, ⟨later, rest⟩) := by
  obtain ⟨later, skipped⟩ := exists_skip place ds rest
  refine ⟨later, ?_⟩
  rw [digits, bind_of_ok (get_eq _), takeWhile_append areDigits stops, bind_of_ok skipped]
  rfl

/-! ### Digits -/

/-- Digits are collected to the end if their value is an unsigned integer. -/
theorem collect_of_le (ds : List Char) (n : Nat)
    (small : ds.foldl (fun n c => n * 10 + Number.digitValue c) n ≤ maxUnsigned) :
    collect n ds = (ds.foldl (fun n c => n * 10 + Number.digitValue c) n, []) := by
  induction ds generalizing n with
  | nil => rfl
  | cons c ds ih =>
    rw [List.foldl_cons] at small ⊢
    have next := Number.Decimal.le_foldl_digits ds (n * 10 + Number.digitValue c)
    rw [collect, if_neg (by omega), ih _ small]

theorem collect_toDigits (small : n ≤ maxUnsigned) : collect 0 (Nat.toDigits 10 n) = (n, []) := by
  have value := Lexer.digitsValue_toDigits n
  unfold Number.digitsValue at value
  rw [collect_of_le _ _ (by rwa [value]), value]

/-- Digits of an integer start with a zero only if that is all. -/
theorem head?_toDigits (positive : 0 < n) : (Nat.toDigits 10 n).head? ≠ some '0' := by
  induction n using Nat.strongRecOn with
  | _ n ih =>
    by_cases small : n < 10
    · have first : ∀ k < 10, 0 < k → [Nat.digitChar k].head? ≠ some '0' := by decide
      rw [Nat.toDigits_of_lt_base small]
      exact first n small positive
    · have shorter := ih (n / 10) (by omega) (by omega)
      rw [Nat.toDigits_of_base_le (by decide) (by omega)]
      cases digits : Nat.toDigits 10 (n / 10) with
      | nil => exact absurd digits Nat.toDigits_ne_nil
      | cons c ds =>
        rw [digits] at shorter
        exact shorter

/-! ### Numbers -/

/-- What follows a number and does not belong to it. -/
def EndsNumber (rest : List Char) : Prop :=
  ∀ c ∈ rest.head?, c.isDigit = false ∧ c ≠ '.' ∧ c ≠ 'e' ∧ c ≠ 'E'

/-- No digit follows a zero in front. -/
theorem zero_alone (ends : EndsNumber rest) (digits : Nat.toDigits 10 n = c :: ds) :
    (c = '0' && (ds ++ rest).head?.any Char.isDigit) = false := by
  by_cases zero : n = 0
  · subst zero
    obtain ⟨rfl, rfl⟩ : '0' = c ∧ [] = ds := List.cons.inj digits
    cases rest with
    | nil => rfl
    | cons d rest => simp [(ends d rfl).1]
  · have first := head?_toDigits (Nat.pos_of_ne_zero zero)
    rw [digits] at first
    have other : c ≠ '0' := fun same => first (congrArg some same)
    simp [other]

theorem endsNumber_cons (digit : c.isDigit = false) (others : c ≠ '.' ∧ c ≠ 'e' ∧ c ≠ 'E') :
    EndsNumber (c :: rest) := by
  intro d first
  obtain rfl := Option.some.inj (Option.mem_def.mp first)
  exact ⟨digit, others⟩

theorem exists_number (negative : Bool) (place : JsonPlace) (small : n ≤ maxUnsigned)
    (ends : EndsNumber rest) :
    ∃ later, number negative ⟨place, Nat.toDigits 10 n ++ rest⟩ =
      .ok (whole negative n, ⟨later, rest⟩) := by
  have areDigits : ∀ c ∈ Nat.toDigits 10 n, c.isDigit = true :=
    fun _ => Lexer.isDigit_of_mem_toDigits
  have collected := collect_toDigits small
  obtain ⟨later, taken⟩ := exists_digits place areDigits fun c first => (ends c first).1
  refine ⟨later, ?_⟩
  cases spelled : Nat.toDigits 10 n with
  | nil => exact absurd spelled Nat.toDigits_ne_nil
  | cons c ds =>
    have alone := zero_alone ends spelled
    rw [spelled] at areDigits collected taken
    rw [List.cons_append] at taken ⊢
    have digit : ¬ (!c.isDigit) = true := by simp [areDigits c List.mem_cons_self]
    rw [number, bind_of_ok (peek_eq _)]
    dsimp only [List.head?_cons]
    rw [if_neg digit, bind_of_ok (get_eq _)]
    dsimp only
    -- The reader looks for a digit after a zero in front, and then for a fraction or an exponent.
    rw [List.getElem?_cons_succ, ← List.head?_eq_getElem?, alone, if_neg Bool.false_ne_true,
      bind_of_ok taken, collected, bind_of_ok (peek_eq _)]
    dsimp only
    rw [if_pos List.isEmpty_nil]
    unfold EndsNumber at ends
    generalize rest.head? = following at ends
    split
    · exact absurd rfl (ends '.' rfl).2.1
    · exact absurd rfl (ends 'e' rfl).2.2.1
    · exact absurd rfl (ends 'E' rfl).2.2.2
    · rfl

/-! ### Values -/

theorem mem_of_isDigit (digit : c.isDigit = true) :
    c ∈ ['0', '1', '2', '3', '4', '5', '6', '7', '8', '9'] := by
  obtain ⟨least, most⟩ := Unicode.range_of_isDigit digit
  have spelled : c = Char.ofNat c.toNat := (Char.ofNat_toNat c).symm
  have each : ∀ k ≤ 57, 48 ≤ k → Char.ofNat k ∈ ['0', '1', '2', '3', '4', '5', '6', '7', '8', '9'] := by
    decide
  rw [spelled]
  exact each c.toNat most least

theorem isBlank_of_isDigit (digit : c.isDigit = true) : isBlank c = false := by
  have other {d : Char} (blank : d.isDigit = false) : c ≠ d := by
    rintro rfl
    rw [digit] at blank
    cases blank
  simp only [isBlank, Bool.or_eq_false_iff, beq_eq_false_iff_ne]
  exact ⟨⟨⟨other rfl, other rfl⟩, other rfl⟩, other rfl⟩

/-- A digit ahead is the first of a number. -/
theorem value_of_digit (digit : c.isDigit = true) (ran : peekToken s = .ok (some c, t)) :
    value room s = number false t := by
  have member := mem_of_isDigit digit
  simp only [List.mem_cons, List.not_mem_nil, or_false] at member
  rw [value, bind_of_ok ran]
  rcases member with rfl | rfl | rfl | rfl | rfl | rfl | rfl | rfl | rfl | rfl <;> rfl

/-- The text of an integer is ahead, after blanks, and what follows does not belong to it. -/
inductive Spells : JsonCursor → Int → List Char → Prop
  | literal (place : JsonPlace) {blanks : List Char} (n : Int) {rest : List Char}
      (areBlank : ∀ c ∈ blanks, isBlank c = true) (ends : EndsNumber rest) :
      Spells ⟨place, blanks ++ ((toString n).toList ++ rest)⟩ n rest

theorem whole_of_nonneg {n : Int} (nonneg : 0 ≤ n) : whole false n.natAbs = .integer n := by
  rw [whole, Int.natAbs_of_nonneg nonneg]
  rfl

theorem whole_of_neg {n : Int} (negative : n < 0) (least : Number.minInteger ≤ n) :
    whole true n.natAbs = .integer n := by
  have same : -(n.natAbs : Int) = n := by omega
  have fits : ¬ (decide (n.natAbs = 0) || decide (n < Number.minInteger)) = true := by
    simp only [Bool.or_eq_true, decide_eq_true_eq]
    omega
  rw [whole, same, if_neg fits]
  rfl

/-- Integers of 64 bits, with or without a sign, are read as such. -/
theorem exists_value {n : Int} (spells : Spells s n rest) (least : Number.minInteger ≤ n)
    (most : n ≤ maxUnsigned) : ∃ later, value room s = .ok (.integer n, ⟨later, rest⟩) := by
  obtain ⟨place, _, areBlank, ends⟩ := spells
  have small : n.natAbs ≤ maxUnsigned := by
    unfold Number.minInteger at least
    unfold maxUnsigned at *
    omega
  rw [Lexer.toList_toString]
  split
  · next negative =>
    obtain ⟨middle, ran⟩ := exists_peekToken (c := '-') place areBlank (by decide)
    obtain ⟨after, skipped⟩ := exists_skip middle ['-'] (Nat.toDigits 10 n.natAbs ++ rest)
    obtain ⟨later, read⟩ := exists_number true after small ends
    rw [whole_of_neg negative least] at read
    refine ⟨later, ?_⟩
    rw [List.append_assoc, List.cons_append, List.nil_append, value, bind_of_ok ran]
    exact (bind_of_ok skipped fun _ => number true).trans read
  · next positive =>
    rw [List.nil_append]
    cases spelled : Nat.toDigits 10 n.natAbs with
    | nil => exact absurd spelled Nat.toDigits_ne_nil
    | cons c ds =>
      have digit : c.isDigit = true := Lexer.isDigit_of_mem_toDigits (spelled ▸ List.mem_cons_self)
      obtain ⟨middle, ran⟩ := exists_peekToken place areBlank (isBlank_of_isDigit digit)
      obtain ⟨later, read⟩ := exists_number false middle small ends
      rw [whole_of_nonneg (Int.not_lt.mp positive), spelled] at read
      exact ⟨later, (value_of_digit digit ran).trans read⟩

end Attest.JsonReader
