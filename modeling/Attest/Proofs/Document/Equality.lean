import Attest.Document.Comparison
import Attest.Proofs.Document.Nodes
import Attest.Proofs.Number.Decimal
/-!
# Loose equality

Nodes are loosely equal if they mean the same: numbers and numerals mean a number, booleans and
their texts a truth, and collections what their parts mean. So loose equality is symmetric and
transitive, and reflexive but for NaN, which means nothing.
-/

namespace Attest

open Number

namespace Node

/-! ### Meanings -/

/-- What a node means when it is compared. -/
inductive Meaning
  | null
  | truth (value : Bool)
  | number (value : ℚ)
  /-- A binary number without decimal, by its place in the order of binary numbers. -/
  | beyond (key : Int)
  | text (value : String)
  | sequence (items : List Meaning)
  | mapping (entries : List (String × Meaning))

def floatMeaning? (x : Binary64) : Option Meaning :=
  match Decimal.ofBinary64? x with
  | some d => some (.number d.value)
  | none => if x.isNaN then none else some (.beyond x.orderKey)

def textMeaning (text : String) : Meaning :=
  match numeral? text, booleanText? text with
  | some d, _ => .number d.value
  | none, some b => .truth b
  | none, none => .text text

mutual

def meaning? : Node → Option Meaning
  | null => some .null
  | boolean value => some (.truth value)
  | integer value => some (.number value)
  | float value => floatMeaning? value
  | string value => some (textMeaning value)
  | sequence items => (itemsMeaning? items).map .sequence
  | mapping entries => (entriesMeaning? entries).map .mapping

def itemsMeaning? : List Node → Option (List Meaning)
  | [] => some []
  | item :: rest => do return (← meaning? item) :: (← itemsMeaning? rest)

def entriesMeaning? : List (String × Node) → Option (List (String × Meaning))
  | [] => some []
  | (key, value) :: rest => do return (key, ← meaning? value) :: (← entriesMeaning? rest)

end

/-- Two meanings that are there and the same. -/
def Same {α : Type} (a b : Option α) : Prop :=
  ∃ meaning, a = some meaning ∧ b = some meaning

theorem same_some_iff {α : Type} {x y : α} : Same (some x) (some y) ↔ x = y := by
  simp [Same, eq_comm]

theorem same_some_right {α : Type} {a : Option α} {y : α} : Same a (some y) ↔ a = some y := by
  simp [Same]

theorem Same.symm {α : Type} {a b : Option α} (same : Same a b) : Same b a := by
  obtain ⟨meaning, first, second⟩ := same
  exact ⟨meaning, second, first⟩

theorem Same.trans {α : Type} {a b c : Option α} (first : Same a b) (second : Same b c) :
    Same a c := by
  obtain ⟨meaning, ha, hb⟩ := first
  obtain ⟨other, hb', hc⟩ := second
  rw [hb] at hb'
  obtain rfl := Option.some.inj hb'
  exact ⟨meaning, ha, hc⟩

/-! ### Numbers -/

/-- Integers have 64 bits. -/
def FitsWord : Node → Prop
  | integer value => minInteger ≤ value ∧ value ≤ maxInteger
  | _ => True

theorem natAbs_of_fits {n : Int} (fits : (integer n).FitsWord) : n.natAbs ≤ 2 ^ 63 := by
  unfold FitsWord minInteger maxInteger at fits
  omega

theorem isSome_number? {a : Node} {x : Binary64} (fits : a.FitsWord) (binary : a.binary? = some x) :
    a.number?.isSome = (Decimal.ofBinary64? x).isSome := by
  cases a with
  | integer n =>
    obtain rfl := Option.some.inj binary
    rw [Binary64.isSome_ofBinary64?_ofInt (natAbs_of_fits fits)]
    rfl
  | float y =>
    obtain rfl := Option.some.inj binary
    rfl
  | _ => cases binary

theorem isSome_of_binaryOrder? {a b : Node} (fits : a.FitsWord) (otherFits : b.FitsWord)
    (equal : binaryOrder? a b = some .eq) : a.number?.isSome = b.number?.isSome := by
  unfold binaryOrder? at equal
  split at equal
  · next x y first second =>
    obtain ⟨_, _, key⟩ := Binary64.compare?_eq_iff.mp equal
    rw [isSome_number? fits first, isSome_number? otherFits second]
    exact Binary64.isSome_of_orderKey key
  · cases equal

theorem meaning?_of_number? {a : Node} {d : Decimal} (number : a.number? = some d) :
    a.meaning? = some (.number d.value) := by
  cases a with
  | integer n =>
    obtain rfl := Option.some.inj number
    rw [meaning?, Decimal.value_ofInt]
  | float x =>
    rw [meaning?, floatMeaning?]
    rw [number?] at number
    rw [number]
  | _ => cases number

/-- A number is an integer or a binary number. -/
def IsNumber (a : Node) : Prop :=
  (∃ n, a = integer n) ∨ ∃ x, a = float x

theorem eq_float_of_number? {a : Node} (number : a.IsNumber) (missing : a.number? = none) :
    ∃ x, a = float x ∧ Decimal.ofBinary64? x = .none := by
  rcases number with ⟨n, rfl⟩ | ⟨x, rfl⟩
  · cases missing
  · exact ⟨x, rfl, missing⟩

theorem meaning?_ne_number {a : Node} (number : a.IsNumber) (missing : a.number? = none) (q : ℚ) :
    a.meaning? ≠ some (.number q) := by
  obtain ⟨x, rfl, noDecimal⟩ := eq_float_of_number? number missing
  rw [meaning?, floatMeaning?, noDecimal]
  dsimp only
  split <;> simp

theorem beyond_iff {x y : Binary64} (first : Decimal.ofBinary64? x = none)
    (second : Decimal.ofBinary64? y = none) :
    x.compare? y = some .eq ↔ Same (floatMeaning? x) (floatMeaning? y) := by
  rw [Binary64.compare?_eq_iff, floatMeaning?, floatMeaning?, first, second]
  cases x.isNaN <;> cases y.isNaN <;> simp [Same, eq_comm]

theorem numbersEqual_iff {a b : Node} (number : a.IsNumber) (other : b.IsNumber)
    (fits : a.FitsWord) (otherFits : b.FitsWord) :
    numbersEqual a b = true ↔ Same a.meaning? b.meaning? := by
  have apart (differ : a.number?.isSome ≠ b.number?.isSome) : binaryOrder? a b ≠ some .eq :=
    fun equal => differ (isSome_of_binaryOrder? fits otherFits equal)
  unfold numbersEqual
  cases first : a.number? with
  | some d =>
    cases second : b.number? with
    | some e =>
      rw [meaning?_of_number? first, meaning?_of_number? second, same_some_iff, Decimal.same_iff]
      exact ⟨congrArg _, Meaning.number.inj⟩
    | none =>
      refine iff_of_false (fun equal => apart (by simp [first, second]) (beq_iff_eq.mp equal)) ?_
      rintro ⟨meaning, ha, hb⟩
      rw [meaning?_of_number? first] at ha
      obtain rfl := Option.some.inj ha
      exact meaning?_ne_number other second _ hb
  | none =>
    cases second : b.number? with
    | some e =>
      refine iff_of_false (fun equal => apart (by simp [first, second]) (beq_iff_eq.mp equal)) ?_
      rintro ⟨meaning, ha, hb⟩
      rw [meaning?_of_number? second] at hb
      obtain rfl := Option.some.inj hb
      exact meaning?_ne_number number first _ ha
    | none =>
      obtain ⟨x, rfl, noDecimal⟩ := eq_float_of_number? number first
      obtain ⟨y, rfl, otherUnmeant⟩ := eq_float_of_number? other second
      rw [beq_iff_eq]
      exact beyond_iff noDecimal otherUnmeant

/-! ### Texts -/

theorem booleanText?_eq_some {text : String} {b : Bool} :
    booleanText? text = some b ↔ text = toString b := by
  constructor
  · intro spelled
    unfold booleanText? at spelled
    split at spelled
    · obtain rfl := Option.some.inj spelled
      rfl
    · obtain rfl := Option.some.inj spelled
      rfl
    · cases spelled
  · rintro rfl
    cases b <;> rfl

theorem numeral?_boolean (b : Bool) : numeral? (toString b) = none := by
  cases b <;> decide +kernel

theorem textMeaning_of_numeral {text : String} {d : Decimal} (numeral : numeral? text = some d) :
    textMeaning text = .number d.value := by
  rw [textMeaning, numeral]

theorem textMeaning_ne_number {text : String} (noNumeral : numeral? text = none) (q : ℚ) :
    textMeaning text ≠ .number q := by
  rw [textMeaning, noNumeral]
  cases booleanText? text <;> simp

theorem textMeaning_ne_beyond (text : String) (key : Int) : textMeaning text ≠ .beyond key := by
  unfold textMeaning
  split <;> simp

/-- A text that spells no number means what no other such text means. -/
theorem textMeaning_inj {a b : String} (first : numeral? a = none) (second : numeral? b = none)
    (same : textMeaning a = textMeaning b) : a = b := by
  rw [textMeaning, textMeaning, first, second] at same
  cases spelled : booleanText? a with
  | some x =>
    cases spelled' : booleanText? b with
    | some y =>
      rw [spelled, spelled'] at same
      obtain rfl := Meaning.truth.inj same
      rw [booleanText?_eq_some.mp spelled, booleanText?_eq_some.mp spelled']
    | none =>
      rw [spelled, spelled'] at same
      cases same
  | none =>
    cases spelled' : booleanText? b with
    | some y =>
      rw [spelled, spelled'] at same
      cases same
    | none =>
      rw [spelled, spelled'] at same
      exact Meaning.text.inj same

theorem textsEqual_iff {a b : String} :
    textsEqual a b = true ↔ textMeaning a = textMeaning b := by
  unfold textsEqual
  cases first : numeral? a with
  | some d =>
    cases second : numeral? b with
    | some e =>
      rw [textMeaning_of_numeral first, textMeaning_of_numeral second, Decimal.same_iff]
      exact ⟨congrArg _, Meaning.number.inj⟩
    | none =>
      refine iff_of_false ?_ ?_
      · intro equal
        rw [beq_iff_eq.mp equal, second] at first
        cases first
      · intro same
        rw [textMeaning_of_numeral first] at same
        exact textMeaning_ne_number second _ same.symm
  | none =>
    dsimp only
    rw [beq_iff_eq]
    cases second : numeral? b with
    | some e =>
      refine iff_of_false ?_ ?_
      · rintro rfl
        rw [second] at first
        cases first
      · intro same
        rw [textMeaning_of_numeral second] at same
        exact textMeaning_ne_number first _ same
    | none => exact ⟨congrArg _, textMeaning_inj first second⟩

theorem booleanText?_iff {text : String} {b : Bool} :
    (booleanText? text == some b) = true ↔ .truth b = textMeaning text := by
  rw [beq_iff_eq]
  constructor
  · intro spelled
    have noNumeral : numeral? text = none := by
      rw [booleanText?_eq_some.mp spelled]
      exact numeral?_boolean b
    rw [textMeaning, noNumeral, spelled]
  · intro same
    unfold textMeaning at same
    split at same
    · cases same
    · next spelled =>
      obtain rfl := Meaning.truth.inj same
      exact spelled
    · cases same

theorem numberEqualsText_iff {a : Node} {text : String} (number : a.IsNumber) :
    numberEqualsText a text = true ↔ a.meaning? = some (textMeaning text) := by
  unfold numberEqualsText
  cases first : a.number? with
  | some d =>
    rw [meaning?_of_number? first, Option.some.injEq]
    cases second : numeral? text with
    | some e =>
      rw [textMeaning_of_numeral second, Decimal.same_iff]
      exact ⟨congrArg _, Meaning.number.inj⟩
    | none => exact iff_of_false (by simp) fun same => textMeaning_ne_number second _ same.symm
  | none =>
    refine iff_of_false (by simp) fun same => ?_
    obtain ⟨x, rfl, noDecimal⟩ := eq_float_of_number? number first
    rw [meaning?, floatMeaning?, noDecimal] at same
    dsimp only at same
    split at same
    · cases same
    · exact textMeaning_ne_beyond _ _ (Option.some.inj same).symm

/-! ### Collections -/

theorem same_items {x y : Option Meaning} {xs ys : Option (List Meaning)} :
    Same (do return (← x) :: (← xs)) (do return (← y) :: (← ys)) ↔ Same x y ∧ Same xs ys := by
  cases x <;> cases y <;> cases xs <;> cases ys <;> simp [Same, eq_comm]

theorem same_entries {key other : String} {x y : Option Meaning}
    {xs ys : Option (List (String × Meaning))} :
    Same (do return (key, ← x) :: (← xs)) (do return (other, ← y) :: (← ys)) ↔
      key = other ∧ Same x y ∧ Same xs ys := by
  cases x <;> cases y <;> cases xs <;> cases ys <;> simp [Same, eq_comm, and_assoc]

theorem same_map_iff {α β : Type} {f : α → β} (injective : ∀ x y, f x = f y → x = y)
    {a b : Option α} : Same (a.map f) (b.map f) ↔ Same a b := by
  cases a with
  | none => simp [Same]
  | some x =>
    cases b with
    | none => simp [Same]
    | some y =>
      rw [Option.map_some, Option.map_some, same_some_iff, same_some_iff]
      exact ⟨injective x y, congrArg f⟩

theorem itemsMeaning?_cons_ne {item : Node} {items : List Node} :
    itemsMeaning? (item :: items) ≠ some [] := by
  rw [itemsMeaning?]
  cases item.meaning? <;> cases itemsMeaning? items <;> simp

theorem entriesMeaning?_cons_ne {entry : String × Node} {entries : List (String × Node)} :
    entriesMeaning? (entry :: entries) ≠ some [] := by
  rw [entriesMeaning?]
  cases entry.2.meaning? <;> cases entriesMeaning? entries <;> simp

/-- The node is equal to others exactly if it means the same. -/
def ComparesByMeaning (a : Node) : Prop :=
  ∀ b : Node, b.Throughout FitsWord → (a.looseEquals b = true ↔ Same a.meaning? b.meaning?)

theorem itemsEqual_iff {items others : List Node} (each : ∀ item ∈ items, item.ComparesByMeaning)
    (fit : ∀ other ∈ others, other.Throughout FitsWord) :
    itemsEqual items others = true ↔ Same (itemsMeaning? items) (itemsMeaning? others) := by
  induction items generalizing others with
  | nil =>
    cases others with
    | nil => exact iff_of_true rfl ⟨[], rfl, rfl⟩
    | cons other others =>
      refine iff_of_false (by simp [itemsEqual]) ?_
      rintro ⟨_, same, unmeant⟩
      cases same
      exact itemsMeaning?_cons_ne unmeant
  | cons item items ih =>
    cases others with
    | nil =>
      refine iff_of_false (by simp [itemsEqual]) ?_
      rintro ⟨_, unmeant, same⟩
      cases same
      exact itemsMeaning?_cons_ne unmeant
    | cons other others =>
      obtain ⟨first, later⟩ := List.forall_mem_cons.mp each
      obtain ⟨fits, fit⟩ := List.forall_mem_cons.mp fit
      rw [itemsEqual, Bool.and_eq_true, first other fits, ih later fit]
      exact same_items.symm

theorem entriesEqual_iff {entries others : List (String × Node)}
    (each : ∀ entry ∈ entries, entry.2.ComparesByMeaning)
    (fit : ∀ other ∈ others, other.2.Throughout FitsWord) :
    entriesEqual entries others = true ↔
      Same (entriesMeaning? entries) (entriesMeaning? others) := by
  induction entries generalizing others with
  | nil =>
    cases others with
    | nil => exact iff_of_true rfl ⟨[], rfl, rfl⟩
    | cons other others =>
      refine iff_of_false (by simp [entriesEqual]) ?_
      rintro ⟨_, same, unmeant⟩
      cases same
      exact entriesMeaning?_cons_ne unmeant
  | cons entry entries ih =>
    cases others with
    | nil =>
      refine iff_of_false (by simp [entriesEqual]) ?_
      rintro ⟨_, unmeant, same⟩
      cases same
      exact entriesMeaning?_cons_ne unmeant
    | cons other others =>
      obtain ⟨first, later⟩ := List.forall_mem_cons.mp each
      obtain ⟨fits, fit⟩ := List.forall_mem_cons.mp fit
      rw [entriesEqual, Bool.and_eq_true, Bool.and_eq_true, beq_iff_eq, first other.2 fits,
        ih later fit, and_assoc]
      exact same_entries.symm

/-! ### Equality is equality of meanings -/

theorem textMeaning_ne {text : String} {meaning : Meaning} (number : ∀ q, meaning ≠ .number q)
    (truth : ∀ b, meaning ≠ .truth b) (other : ∀ s, meaning ≠ .text s) :
    textMeaning text ≠ meaning := by
  rintro rfl
  unfold textMeaning at number truth other
  split at number <;> simp_all

theorem ne_textMeaning {text : String} {meaning : Meaning} (number : ∀ q, meaning ≠ .number q)
    (truth : ∀ b, meaning ≠ .truth b) (other : ∀ s, meaning ≠ .text s) :
    meaning ≠ textMeaning text :=
  (textMeaning_ne number truth other).symm

theorem floatMeaning?_ne {x : Binary64} {meaning : Meaning} (number : ∀ q, meaning ≠ .number q)
    (beyond : ∀ key, meaning ≠ .beyond key) : floatMeaning? x ≠ some meaning := by
  intro same
  unfold floatMeaning? at same
  split at same
  · exact number _ (Option.some.inj same).symm
  · split at same
    · cases same
    · exact beyond _ (Option.some.inj same).symm

theorem IsNumber.scalars_eq {a : Node} (number : a.IsNumber) : a.scalars = [a] := by
  rcases number with ⟨n, rfl⟩ | ⟨x, rfl⟩ <;> rfl

theorem comparesByMeaning_number {a : Node} (number : a.IsNumber)
    (fits : a.Throughout FitsWord) : a.ComparesByMeaning := by
  have word := (throughout_scalar number.scalars_eq).mp fits
  have equals (b : Node) (other : b.IsNumber) : a.looseEquals b = numbersEqual a b := by
    rcases number with ⟨n, rfl⟩ | ⟨x, rfl⟩ <;> rcases other with ⟨m, rfl⟩ | ⟨y, rfl⟩ <;> rfl
  intro b otherFits
  have numbers (other : b.IsNumber) : a.looseEquals b = true ↔ Same a.meaning? b.meaning? := by
    rw [equals b other]
    have otherWord := (throughout_scalar other.scalars_eq).mp otherFits
    exact numbersEqual_iff number other word otherWord
  cases b with
  | integer m => exact numbers (.inl ⟨m, rfl⟩)
  | float y => exact numbers (.inr ⟨y, rfl⟩)
  | string text =>
    have textual : a.looseEquals (string text) = numberEqualsText a text := by
      rcases number with ⟨n, rfl⟩ | ⟨x, rfl⟩ <;> rfl
    rw [textual, numberEqualsText_iff number, meaning?.eq_5, same_some_right]
  | _ =>
    rcases number with ⟨n, rfl⟩ | ⟨x, rfl⟩ <;>
      simp [looseEquals, meaning?, Same, floatMeaning?_ne]

theorem comparesByMeaning_string (text : String) : (string text).ComparesByMeaning := by
  intro b fits
  have numbers (other : b.IsNumber)
      (equals : (string text).looseEquals b = numberEqualsText b text) :
      (string text).looseEquals b = true ↔ Same (string text).meaning? b.meaning? := by
    rw [equals, numberEqualsText_iff other, ← same_some_right]
    exact ⟨Same.symm, Same.symm⟩
  cases b with
  | boolean other =>
    rw [looseEquals, meaning?, meaning?, same_some_iff, booleanText?_iff]
    exact eq_comm
  | string other =>
    rw [looseEquals, meaning?, meaning?, same_some_iff, textsEqual_iff]
  | integer n => exact numbers (.inl ⟨n, rfl⟩) rfl
  | float x => exact numbers (.inr ⟨x, rfl⟩) rfl
  | _ => simp [looseEquals, meaning?, Same, ne_textMeaning]

theorem comparesByMeaning {a : Node} (fits : a.Throughout FitsWord) : a.ComparesByMeaning := by
  induction a with
  | null =>
    intro b _
    cases b <;> simp [looseEquals, meaning?, Same, textMeaning_ne, floatMeaning?_ne]
  | boolean value =>
    intro b _
    cases b with
    | boolean other =>
      rw [looseEquals, meaning?, meaning?, same_some_iff, beq_iff_eq, Meaning.truth.injEq]
    | string text => rw [looseEquals, meaning?, meaning?, same_some_iff, booleanText?_iff]
    | _ => simp [looseEquals, meaning?, Same, floatMeaning?_ne]
  | integer value => exact comparesByMeaning_number (.inl ⟨value, rfl⟩) fits
  | float value => exact comparesByMeaning_number (.inr ⟨value, rfl⟩) fits
  | string value => exact comparesByMeaning_string value
  | sequence items ih =>
    intro b otherFits
    have each := throughout_sequence.mp fits
    cases b with
    | sequence others =>
      rw [looseEquals, meaning?, meaning?, same_map_iff fun _ _ => Meaning.sequence.inj]
      exact itemsEqual_iff (fun item member => ih item member (each item member))
        (throughout_sequence.mp otherFits)
    | _ => simp [looseEquals, meaning?, Same, floatMeaning?_ne, ne_textMeaning]
  | mapping entries ih =>
    intro b otherFits
    have each := throughout_mapping.mp fits
    cases b with
    | mapping others =>
      rw [looseEquals, meaning?, meaning?, same_map_iff fun _ _ => Meaning.mapping.inj]
      exact entriesEqual_iff (fun entry member => ih entry member (each entry member))
        (throughout_mapping.mp otherFits)
    | _ => simp [looseEquals, meaning?, Same, floatMeaning?_ne, ne_textMeaning]

theorem looseEquals_iff {a b : Node} (fits : a.Throughout FitsWord)
    (otherFits : b.Throughout FitsWord) :
    a.looseEquals b = true ↔ Same a.meaning? b.meaning? :=
  comparesByMeaning fits b otherFits

/-! ### Loose equality is an equivalence -/

def NotNaN : Node → Prop
  | float x => x.isNaN = false
  | _ => True

theorem exists_itemsMeaning? {items : List Node}
    (each : ∀ item ∈ items, ∃ meaning, item.meaning? = some meaning) :
    ∃ meanings, itemsMeaning? items = some meanings := by
  induction items with
  | nil => exact ⟨[], rfl⟩
  | cons item rest ih =>
    obtain ⟨⟨first, here⟩, later⟩ := List.forall_mem_cons.mp each
    obtain ⟨others, there⟩ := ih later
    exact ⟨first :: others, by rw [itemsMeaning?, here, there]; rfl⟩

theorem exists_entriesMeaning? {entries : List (String × Node)}
    (each : ∀ entry ∈ entries, ∃ meaning, entry.2.meaning? = some meaning) :
    ∃ meanings, entriesMeaning? entries = some meanings := by
  induction entries with
  | nil => exact ⟨[], rfl⟩
  | cons entry rest ih =>
    obtain ⟨⟨first, here⟩, later⟩ := List.forall_mem_cons.mp each
    obtain ⟨others, there⟩ := ih later
    exact ⟨(entry.1, first) :: others, by rw [entriesMeaning?, here, there]; rfl⟩

/-- Only NaN means nothing. -/
theorem exists_meaning? {a : Node} (values : a.Throughout NotNaN) :
    ∃ meaning, a.meaning? = some meaning := by
  induction a with
  | null => exact ⟨_, rfl⟩
  | boolean b => exact ⟨_, rfl⟩
  | integer n => exact ⟨_, rfl⟩
  | float x =>
    have number : x.isNaN = false := (throughout_scalar rfl).mp values
    rw [meaning?, floatMeaning?, number]
    cases Decimal.ofBinary64? x with
    | some d => exact ⟨_, rfl⟩
    | none => exact ⟨_, rfl⟩
  | string text => exact ⟨_, rfl⟩
  | sequence items ih =>
    have each := throughout_sequence.mp values
    obtain ⟨meanings, here⟩ :=
      exists_itemsMeaning? fun item member => ih item member (each item member)
    exact ⟨.sequence meanings, by rw [meaning?, here]; rfl⟩
  | mapping entries ih =>
    have each := throughout_mapping.mp values
    obtain ⟨meanings, here⟩ :=
      exists_entriesMeaning? fun entry member => ih entry member (each entry member)
    exact ⟨.mapping meanings, by rw [meaning?, here]; rfl⟩

/-- Loose equality of nodes with integers of 64 bits is symmetric and transitive, and reflexive on
nodes without NaN. -/
theorem looseEquals_equivalence :
    (∀ a : Node, a.Throughout FitsWord → a.Throughout NotNaN → a.looseEquals a = true) ∧
    (∀ a b : Node, a.Throughout FitsWord → b.Throughout FitsWord →
      a.looseEquals b = b.looseEquals a) ∧
    ∀ a b c : Node, a.Throughout FitsWord → b.Throughout FitsWord → c.Throughout FitsWord →
      a.looseEquals b = true → b.looseEquals c = true → a.looseEquals c = true := by
  refine ⟨?_, ?_, ?_⟩
  · intro a fits values
    obtain ⟨meaning, here⟩ := exists_meaning? values
    exact (looseEquals_iff fits fits).mpr ⟨meaning, here, here⟩
  · intro a b first second
    rw [Bool.eq_iff_iff, looseEquals_iff first second, looseEquals_iff second first]
    exact ⟨Same.symm, Same.symm⟩
  · intro a b c first second third same next
    have same := (looseEquals_iff first second).mp same
    have next := (looseEquals_iff second third).mp next
    exact (looseEquals_iff first third).mpr (same.trans next)

/-- A number, a truth and an infinity, each the way it was read. -/
def sampled (number truth : Node) : Node :=
  .mapping [("n", .sequence [number, .float (.infinity true)]), ("b", truth)]

theorem throughout_sampled {property : Node → Prop} {number truth : Node}
    (first : number.Throughout property) (infinite : property (.float (.infinity true)))
    (second : truth.Throughout property) : (sampled number truth).Throughout property := by
  have alone : (float (.infinity true)).Throughout property := (throughout_scalar rfl).mpr infinite
  rw [sampled, throughout_mapping, List.forall_mem_cons, List.forall_mem_cons, throughout_sequence,
    List.forall_mem_cons, List.forall_mem_cons]
  exact ⟨⟨first, alone, by simp⟩, second, by simp⟩

theorem looseEquals_equivalence_sampled :
    let a := sampled (.integer 3) (.boolean true)
    let b := sampled (.string " 3.0") (.string "true")
    let c := sampled (.float (.ofInt 3)) (.boolean true)
    a.Throughout FitsWord ∧ b.Throughout FitsWord ∧ c.Throughout FitsWord ∧
      a.Throughout NotNaN ∧ a.looseEquals a = true ∧ a.looseEquals b = true ∧
        b.looseEquals c = true ∧ a.looseEquals b = b.looseEquals a ∧ a.looseEquals c = true := by
  intro a b c
  obtain ⟨refl, symm, trans⟩ := looseEquals_equivalence
  have fitsA : a.Throughout FitsWord :=
    throughout_sampled ((throughout_scalar rfl).mpr (by unfold FitsWord; decide)) trivial
      ((throughout_scalar rfl).mpr trivial)
  have fitsB : b.Throughout FitsWord :=
    throughout_sampled ((throughout_scalar rfl).mpr trivial) trivial
      ((throughout_scalar rfl).mpr trivial)
  have fitsC : c.Throughout FitsWord :=
    throughout_sampled ((throughout_scalar rfl).mpr trivial) trivial
      ((throughout_scalar rfl).mpr trivial)
  have values : a.Throughout NotNaN :=
    throughout_sampled ((throughout_scalar rfl).mpr trivial) (by unfold NotNaN; decide)
      ((throughout_scalar rfl).mpr trivial)
  have same : a.looseEquals b = true := by decide +kernel
  have next : b.looseEquals c = true := by decide +kernel
  exact ⟨fitsA, fitsB, fitsC, values, refl a fitsA values, same, next, symm a b fitsA fitsB,
    trans a b c fitsA fitsB fitsC same next⟩

end Node

end Attest
