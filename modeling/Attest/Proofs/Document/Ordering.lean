import Attest.Proofs.Document.Equality
import Attest.Proofs.Number.Magnitude
import Mathlib.Data.Prod.Lex
/-!
# Order of nodes

The order of two nodes is that of two values, of two texts or of two binary numbers. It agrees with
loose equality. Values and binary numbers lie on one line, so the order is transitive but where
texts that are numerals and texts that are none meet.
-/

namespace Attest

open Number

namespace Node

/-! ### What is compared -/

/-- What the order of two nodes is read off. -/
inductive Compared (a b : Node) : Ordering → Prop
  | values {d e : Decimal} (first : a.ordinal? = some d) (second : b.ordinal? = some e) :
      Compared a b (d.order e)
  | texts {s t : String} (first : a = string s) (second : b = string t)
      (apart : numeral? s = none ∨ numeral? t = none) : Compared a b (compare s t)
  | binaries {o : Ordering} {x y : Binary64} (number : a.IsNumber) (other : b.IsNumber)
      (first : a.binary? = some x) (second : b.binary? = some y)
      (apart : a.number? = none ∨ b.number? = none) (compared : x.compare? y = some o) :
      Compared a b o

variable {a b c : Node} {o : Ordering}

theorem isNumber_of_binary? {x : Binary64} (binary : a.binary? = some x) : a.IsNumber := by
  cases a with
  | integer n => exact .inl ⟨n, rfl⟩
  | float y => exact .inr ⟨y, rfl⟩
  | _ => cases binary

theorem IsNumber.ordinal? (number : a.IsNumber) : a.ordinal? = a.number? := by
  rcases number with ⟨n, rfl⟩ | ⟨x, rfl⟩ <;> rfl

theorem compared_of_binaryOrder? (apart : a.ordinal? = none ∨ b.ordinal? = none)
    (ordered : binaryOrder? a b = some o) : Compared a b o := by
  unfold binaryOrder? at ordered
  split at ordered
  · next x y first second =>
    have number := isNumber_of_binary? first
    have other := isNumber_of_binary? second
    rw [number.ordinal?, other.ordinal?] at apart
    exact .binaries number other first second apart ordered
  · cases ordered

theorem compared_of_order? (ordered : a.order? b = some o) : Compared a b o := by
  unfold order? at ordered
  split at ordered
  · next d e first second =>
    obtain rfl := Option.some.inj ordered
    exact .values first second
  · next missing =>
    have apart : a.ordinal? = none ∨ b.ordinal? = none := by
      cases first : a.ordinal? with
      | none => exact .inl rfl
      | some d => exact .inr (Option.eq_none_iff_forall_ne_some.mpr (missing d · first))
    unfold plainOrder? at ordered
    split at ordered
    · next s t =>
      obtain rfl := Option.some.inj ordered
      exact .texts rfl rfl apart
    · exact compared_of_binaryOrder? apart ordered

/-! ### Reversal -/

theorem binaryOrder?_swap (a b : Node) : binaryOrder? b a = (binaryOrder? a b).map .swap := by
  unfold binaryOrder?
  cases a.binary? with
  | none => cases b.binary? <;> rfl
  | some x =>
    cases b.binary? with
    | none => rfl
    | some y =>
      dsimp only
      unfold Binary64.compare?
      rw [Bool.or_comm, Std.OrientedOrd.eq_swap]
      split <;> rfl

theorem plainOrder?_of_not_texts (apart : ∀ s t, a = string s → b = string t → False) :
    plainOrder? a b = binaryOrder? a b := by
  unfold plainOrder?
  split
  · next s t => exact (apart s t rfl rfl).elim
  · rfl

theorem plainOrder?_swap (a b : Node) : plainOrder? b a = (plainOrder? a b).map .swap := by
  by_cases texts : ∃ s t, a = string s ∧ b = string t
  · obtain ⟨s, t, rfl, rfl⟩ := texts
    have swapped : compare t s = (compare s t).swap := Std.OrientedOrd.eq_swap
    exact congrArg some swapped
  · rw [plainOrder?_of_not_texts fun s t first second => texts ⟨s, t, first, second⟩,
      plainOrder?_of_not_texts fun t s second first => texts ⟨s, t, first, second⟩]
    exact binaryOrder?_swap a b

theorem order?_swap (a b : Node) : b.order? a = (a.order? b).map .swap := by
  unfold order?
  cases a.ordinal? with
  | none => cases b.ordinal? <;> exact plainOrder?_swap a b
  | some d =>
    cases b.ordinal? with
    | none => exact plainOrder?_swap a b
    | some e =>
      have swapped : e.order d = (d.order e).swap := Std.OrientedOrd.eq_swap
      exact congrArg some swapped

/-! ### Values -/

theorem order?_of_ordinal? {d e : Decimal} (first : a.ordinal? = some d)
    (second : b.ordinal? = some e) : a.order? b = some (compare d.value e.value) := by
  rw [order?, first, second, (compare_iff _ _).mpr (Decimal.order_compares d e)]

/-! ### Equality -/

theorem looseEquals_of_ordinal? {d e : Decimal} (first : a.ordinal? = some d)
    (second : b.ordinal? = some e) : a.looseEquals b = d.same e := by
  have same : e.same d = d.same e := Bool.beq_comm
  cases a with
  | integer m =>
    cases b <;> simp_all [looseEquals, numbersEqual, numberEqualsText, ordinal?, number?]
  | float x => cases b <;> simp_all [looseEquals, numbersEqual, numberEqualsText, ordinal?, number?]
  | string s => cases b <;> simp_all [looseEquals, textsEqual, numberEqualsText, ordinal?, number?]
  | _ => cases first

theorem IsNumber.looseEquals (number : a.IsNumber) (other : b.IsNumber) :
    a.looseEquals b = numbersEqual a b := by
  rcases number with ⟨m, rfl⟩ | ⟨x, rfl⟩ <;>
    rcases other with ⟨n, rfl⟩ | ⟨y, rfl⟩ <;> rw [Node.looseEquals]

theorem numbersEqual_of_apart (apart : a.number? = none ∨ b.number? = none) :
    numbersEqual a b = (binaryOrder? a b == some .eq) := by
  unfold numbersEqual
  rcases apart with missing | missing
  · rw [missing]
  · rw [missing]
    cases a.number? <;> rfl

theorem textsEqual_of_apart {s t : String} (apart : numeral? s = none ∨ numeral? t = none) :
    textsEqual s t = (s == t) := by
  unfold textsEqual
  rcases apart with missing | missing
  · rw [missing]
  · rw [missing]
    cases numeral? s <;> rfl

theorem Compared.eq_iff (compared : Compared a b o) : o = .eq ↔ a.looseEquals b = true := by
  cases compared with
  | values first second =>
    rw [looseEquals_of_ordinal? first second, Decimal.same, beq_iff_eq, Decimal.order]
    exact Std.compare_eq_iff_eq
  | texts first second apart =>
    subst first second
    rw [looseEquals, textsEqual_of_apart apart, beq_iff_eq]
    exact Std.compare_eq_iff_eq
  | binaries number other first second apart compared =>
    have ordered : binaryOrder? a b = some o := by
      rw [binaryOrder?, first, second]
      exact compared
    rw [number.looseEquals other, numbersEqual_of_apart apart, ordered, beq_iff_eq]
    exact ⟨congrArg some, Option.some.inj⟩

/-! ### The line of numbers -/

/-- Where a number stands on a line: numbers with a decimal by its value, others by their place in
the order of binary numbers, before or behind all decimals. -/
def Meaning.place? : Meaning → Option (ℤ ×ₗ ℚ)
  | .number value => some (toLex (0, value))
  | .beyond key => some (toLex (key, 0))
  | _ => none

def place? (a : Node) : Option (ℤ ×ₗ ℚ) :=
  a.meaning?.bind Meaning.place?

theorem meaning?_of_ordinal? {d : Decimal} (ordinal : a.ordinal? = some d) :
    a.meaning? = some (.number d.value) := by
  cases a with
  | string text => rw [meaning?, textMeaning_of_numeral ordinal]
  | _ => exact meaning?_of_number? ordinal

theorem place?_of_ordinal? {d : Decimal} (ordinal : a.ordinal? = some d) :
    a.place? = some (toLex (0, d.value)) := by
  rw [place?, meaning?_of_ordinal? ordinal]
  rfl

theorem place?_text {text : String} (noNumeral : numeral? text = none) :
    (string text).place? = none := by
  rw [place?, meaning?, textMeaning, noNumeral]
  cases booleanText? text <;> rfl

/-- The place of a binary number is at its decimal, or before or behind all decimals. -/
inductive Stands (x : Binary64) : ℤ ×ₗ ℚ → Prop
  | within (value : ℚ) (near : x.orderKey.natAbs ≤ Decimal.greatestMagnitude) :
      Stands x (toLex (0, value))
  | beyond (far : Decimal.greatestMagnitude < x.orderKey.natAbs) : Stands x (toLex (x.orderKey, 0))

section

variable {x y : Binary64} {p q : ℤ ×ₗ ℚ}

theorem isSome_number?_iff (fits : a.FitsWord) (binary : a.binary? = some x) :
    a.number?.isSome = true ↔ x.orderKey.natAbs ≤ Decimal.greatestMagnitude := by
  rw [isSome_number? fits binary, Decimal.isSome_ofBinary64?_iff, Binary64.natAbs_orderKey]

theorem far_of_missing (fits : a.FitsWord) (binary : a.binary? = some x)
    (missing : a.number? = none) : Decimal.greatestMagnitude < x.orderKey.natAbs := by
  apply Nat.lt_of_not_le
  rw [← isSome_number?_iff fits binary, missing]
  simp

theorem exists_place? (fits : a.FitsWord) (binary : a.binary? = some x) (number : x.isNaN = false) :
    ∃ place, a.place? = some place ∧ Stands x place := by
  cases given : a.number? with
  | some d =>
    have near := (isSome_number?_iff fits binary).mp (by rw [given]; rfl)
    have ordinal : a.ordinal? = some d := by rw [(isNumber_of_binary? binary).ordinal?, given]
    exact ⟨_, place?_of_ordinal? ordinal, .within d.value near⟩
  | none =>
    have far := far_of_missing fits binary given
    obtain ⟨y, rfl, missing⟩ := eq_float_of_number? (isNumber_of_binary? binary) given
    obtain rfl := Option.some.inj binary
    refine ⟨_, ?_, .beyond far⟩
    rw [place?, meaning?, floatMeaning?, missing]
    dsimp only
    rw [number]
    rfl

theorem toLex_lt {key other : ℤ} {u v : ℚ} (less : key < other) :
    toLex (key, u) < toLex (other, v) :=
  Prod.Lex.toLex_lt_toLex.mpr (.inl less)

/-- Neither side of the decimals reaches the other. -/
theorem Stands.lt (first : Stands x p) (second : Stands y q)
    (far : Decimal.greatestMagnitude < x.orderKey.natAbs ∨
      Decimal.greatestMagnitude < y.orderKey.natAbs)
    (less : x.orderKey < y.orderKey) : p < q := by
  cases first with
  | within value near =>
    cases second with
    | within other also => omega
    | beyond _ => exact toLex_lt (by omega)
  | beyond _ =>
    cases second with
    | within other near => exact toLex_lt (by omega)
    | beyond _ => exact toLex_lt less

theorem Stands.eq (first : Stands x p) (second : Stands y q)
    (far : Decimal.greatestMagnitude < x.orderKey.natAbs ∨
      Decimal.greatestMagnitude < y.orderKey.natAbs)
    (equal : x.orderKey = y.orderKey) : p = q := by
  cases first with
  | within value near => cases second <;> omega
  | beyond _ =>
    cases second with
    | within other near => omega
    | beyond _ => rw [equal]

theorem Stands.compares (first : Stands x p) (second : Stands y q)
    (far : Decimal.greatestMagnitude < x.orderKey.natAbs ∨
      Decimal.greatestMagnitude < y.orderKey.natAbs)
    (compared : o.Compares x.orderKey y.orderKey) : o.Compares p q := by
  cases o with
  | lt => exact first.lt second far compared
  | eq => exact first.eq second far compared
  | gt => exact second.lt first far.symm compared

end

theorem compares_decimals (d e : Decimal) :
    (d.order e).Compares (toLex ((0 : ℤ), d.value)) (toLex (0, e.value)) := by
  have values := Decimal.order_compares d e
  generalize d.order e = o at values ⊢
  cases o with
  | lt => exact Prod.Lex.toLex_lt_toLex.mpr (.inr ⟨rfl, values⟩)
  | eq => exact congrArg (fun value => toLex ((0 : ℤ), value)) values
  | gt => exact Prod.Lex.toLex_lt_toLex.mpr (.inr ⟨rfl, values⟩)

/-- Numbers are compared along their line, and texts as texts unless both are numerals. -/
inductive Aligned (a b : Node) (o : Ordering) : Prop
  | line {p q : ℤ ×ₗ ℚ} (first : a.place? = some p) (second : b.place? = some q)
      (compares : o.Compares p q) : Aligned a b o
  | texts {s t : String} (first : a = string s) (second : b = string t)
      (apart : numeral? s = none ∨ numeral? t = none) (compares : compare s t = o) : Aligned a b o

theorem aligned_of_order? (fits : a.FitsWord) (otherFits : b.FitsWord)
    (ordered : a.order? b = some o) : Aligned a b o := by
  cases compared_of_order? ordered with
  | values first second =>
    exact .line (place?_of_ordinal? first) (place?_of_ordinal? second) (compares_decimals _ _)
  | texts first second apart => exact .texts first second apart rfl
  | binaries number other first second apart compared =>
    obtain ⟨notNaN, alsoNot, keys⟩ := Binary64.compare?_eq_some_iff.mp compared
    obtain ⟨p, here, stands⟩ := exists_place? fits first notNaN
    obtain ⟨q, there, alsoStands⟩ := exists_place? otherFits second alsoNot
    have far := apart.imp (far_of_missing fits first) (far_of_missing otherFits second)
    exact .line here there (stands.compares alsoStands far ((compare_iff _ _).mp keys))

/-! ### Transitivity -/

/-- Three texts of which two are numerals, in another order as numbers than as texts. -/
def MixesOrders (a b c : Node) : Prop :=
  ∃ s t u d e, [a, b, c].Perm [string s, string t, string u] ∧ numeral? s = some d ∧
    numeral? t = some e ∧ numeral? u = none ∧ d.order e ≠ compare s t

section

variable {s t u : String} {p q : ℤ ×ₗ ℚ}

theorem exists_numeral (stands : (string s).place? = some p) : ∃ d, numeral? s = some d := by
  apply Option.ne_none_iff_exists'.mp
  intro noNumeral
  rw [place?_text noNumeral] at stands
  cases stands

theorem missing_of_left (apart : numeral? s = none ∨ numeral? t = none)
    (stands : (string s).place? = some p) : numeral? t = none := by
  obtain ⟨d, numeral⟩ := exists_numeral stands
  exact apart.resolve_left (by simp [numeral])

theorem not_both_stand (apart : numeral? s = none ∨ numeral? t = none)
    (first : (string s).place? = some p) (second : (string t).place? = some q) : False := by
  rw [place?_text (missing_of_left apart first)] at second
  cases second

theorem compare_of_unmixed (unmixed : ¬ MixesOrders a b c)
    (texts : [a, b, c].Perm [string s, string t, string u])
    (first : (string s).place? = some p) (second : (string t).place? = some q)
    (other : numeral? u = none) (ordered : (string s).order? (string t) = some o) :
    compare s t = o := by
  obtain ⟨d, numeral⟩ := exists_numeral first
  obtain ⟨e, alsoNumeral⟩ := exists_numeral second
  rw [order?, ordinal?, ordinal?, numeral, alsoNumeral] at ordered
  obtain rfl := Option.some.inj ordered
  by_contra differs
  exact unmixed
    ⟨s, t, u, d, e, texts, numeral, alsoNumeral, other, fun same => differs same.symm⟩

theorem lt_of_line (unmixed : ¬ MixesOrders a b c) (first : a.order? b = some .lt)
    (here : a.place? = some p) (there : b.place? = some q) (less : p < q)
    (later : Aligned b c .lt) (ends : Aligned a c o) : o = .lt := by
  cases later with
  | line again beyond further =>
    obtain rfl := Option.some.inj (there.symm.trans again)
    cases ends with
    | line start finish compares =>
      obtain rfl := Option.some.inj (here.symm.trans start)
      obtain rfl := Option.some.inj (beyond.symm.trans finish)
      exact compares.eq_lt.mpr (lt_trans less further)
    | texts isText alsoText apart _ =>
      subst isText alsoText
      exact (not_both_stand apart here beyond).elim
  | texts isText alsoText apart further =>
    subst isText alsoText
    cases ends with
    | line _ finish _ => exact (not_both_stand apart there finish).elim
    -- Two numerals and then another text, so the first two are in one order as texts too.
    | texts isText alsoText _ compares =>
      subst isText
      obtain rfl := string.inj alsoText
      have other := missing_of_left apart there
      have less := compare_of_unmixed unmixed (.refl _) here there other first
      exact compares.symm.trans (Std.TransCmp.lt_trans less further)

theorem lt_of_texts (unmixed : ¬ MixesOrders (string s) (string t) c)
    (second : (string t).order? c = some .lt) (whole : (string s).order? c = some o)
    (apart : numeral? s = none ∨ numeral? t = none) (less : compare s t = .lt)
    (later : Aligned (string t) c .lt) (ends : Aligned (string s) c o) : o = .lt := by
  cases later with
  | line there beyond further =>
    cases ends with
    | line start _ _ => exact (not_both_stand apart start there).elim
    -- The same with the other text in front.
    | texts isText alsoText _ compares =>
      obtain rfl := string.inj isText
      subst alsoText
      have other := missing_of_left apart.symm there
      have further := compare_of_unmixed unmixed
        ((List.Perm.swap _ _ _).trans (.cons _ (.swap _ _ []))) there beyond other second
      exact compares.symm.trans (Std.TransCmp.lt_trans less further)
  | texts again alsoText _ further =>
    obtain rfl := string.inj again
    subst alsoText
    have chained := Std.TransCmp.lt_trans less further
    cases ends with
    -- Only the outer two are numerals: they are compared as such, the links as texts.
    | line start finish _ =>
      have other := missing_of_left apart start
      have same := compare_of_unmixed unmixed (.cons _ (.swap _ _ [])) start finish other whole
      exact same.symm.trans chained
    | texts isText alsoText _ compares =>
      obtain rfl := string.inj isText
      obtain rfl := string.inj alsoText
      exact compares.symm.trans chained

end

/-- The order is transitive, but where two numerals and another text are compared. -/
theorem order?_trans (fits : a.FitsWord) (nextFits : b.FitsWord) (lastFits : c.FitsWord)
    (unmixed : ¬ MixesOrders a b c) (first : a.order? b = some .lt) (second : b.order? c = some .lt)
    (ordered : a.order? c ≠ none) : a.order? c = some .lt := by
  obtain ⟨o, whole⟩ := Option.ne_none_iff_exists'.mp ordered
  have later := aligned_of_order? nextFits lastFits second
  have ends := aligned_of_order? fits lastFits whole
  suffices less : o = .lt by rw [whole, less]
  cases aligned_of_order? fits nextFits first with
  | line here there less => exact lt_of_line unmixed first here there less later ends
  | texts isText alsoText apart less =>
    subst isText alsoText
    exact lt_of_texts unmixed second whole apart less later ends

theorem order?_trans_infinite :
    let a := float (.infinity true)
    let b := float (.ofDecimal false 5 1)
    let c := integer 7
    a.FitsWord ∧ b.FitsWord ∧ c.FitsWord ∧ ¬ MixesOrders a b c ∧ a.order? b = some .lt ∧
      b.order? c = some .lt ∧ a.order? c ≠ none ∧ a.order? c = some .lt := by
  intro a b c
  have fits : a.FitsWord := trivial
  have nextFits : b.FitsWord := trivial
  have lastFits : c.FitsWord := by unfold FitsWord; decide
  have unmixed : ¬ MixesOrders a b c := by
    rintro ⟨s, t, u, _, _, texts, _⟩
    have text : a ∈ [string s, string t, string u] := texts.subset (List.mem_cons_self ..)
    simp [a] at text
  have first : a.order? b = some .lt := by decide +kernel
  have second : b.order? c = some .lt := by decide +kernel
  have ordered : a.order? c ≠ none := by decide +kernel
  exact ⟨fits, nextFits, lastFits, unmixed, first, second, ordered,
    order?_trans fits nextFits lastFits unmixed first second ordered⟩

/-- As texts `10` is before `5x` and that before `9`, but ten is more than nine. -/
theorem order?_not_trans :
    ¬ ∀ s t u : String, (string s).order? (string t) = some .lt →
        (string t).order? (string u) = some .lt → (string s).order? (string u) ≠ none →
          (string s).order? (string u) = some .lt := by
  intro every
  have less := every "10" "5x" "9" (by decide +kernel) (by decide +kernel) (by decide +kernel)
  have greater : (string "10").order? (string "9") = some .gt := by decide +kernel
  cases greater.symm.trans less

end Node

end Attest
