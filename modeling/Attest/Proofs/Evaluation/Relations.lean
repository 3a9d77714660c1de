import Attest.Proofs.Document.Ordering
import Attest.Proofs.Evaluation.Leaf
/-!
# Relations of two operands

Forms of two operands relate the one value of the right operand to the value, or to the members, of
the left one. Of two values that have an order, exactly one of three relations holds.
-/

namespace Attest

/-- A form that relates two operands. -/
def Assertion.relation (quantifier : Option Quantifier) (form : Form) (left right : Operand) :
    Assertion :=
  ⟨quantifier, ⟨form, []⟩, left, some right⟩

namespace Form

/-- Whether the form holds of two values. -/
def relates (form : Form) (left right : Node) : Except AssertionError Bool :=
  Predicate.applyPair ⟨form, []⟩ left right

/-- The orders that a form allows its values to be in. -/
def allows? : Form → Option (Ordering → Bool)
  | .greaterThan => some (· == .gt)
  | .greaterOrEqual => some (· != .lt)
  | .lessThan => some (· == .lt)
  | .lessOrEqual => some (· != .gt)
  | _ => none

/-- The relation of two values that are in an order. -/
def ofOrder : Ordering → Form
  | .lt => .lessThan
  | .eq => .equals
  | .gt => .greaterThan

variable {form : Form} {allows : Ordering → Bool}

theorem relates_of_allows? (ordering : form.allows? = some allows) (x y : Node) :
    form.relates x y = (form.order x y).map allows := by
  cases form with
  | greaterThan | greaterOrEqual | lessThan | lessOrEqual =>
    obtain rfl := Option.some.inj ordering
    rfl
  | _ => cases ordering

theorem operands_of_allows? (ordering : form.allows? = some allows) :
    form.signature.operands = 2 := by
  cases form with
  | greaterThan | greaterOrEqual | lessThan | lessOrEqual => rfl
  | _ => cases ordering

theorem relates_eq_ok_iff (ordering : form.allows? = some allows) {x y : Node} {b : Bool} :
    form.relates x y = .ok b ↔ ∃ o, x.order? y = some o ∧ allows o = b := by
  rw [relates_of_allows? ordering, order]
  cases x.order? y <;> simp [Except.map]

/-- Of two values that have an order, the relations are true or not by the order alone. -/
theorem relates_ofOrder {x y : Node} {o : Ordering} (ordered : x.order? y = some o)
    (other : Ordering) : (ofOrder other).relates x y = .ok (other == o) := by
  cases other with
  | lt => exact (relates_eq_ok_iff rfl).mpr ⟨o, ordered, by cases o <;> rfl⟩
  | gt => exact (relates_eq_ok_iff rfl).mpr ⟨o, ordered, by cases o <;> rfl⟩
  | eq =>
    have equal : x.looseEquals y = (Ordering.eq == o) := by
      rw [Bool.eq_iff_iff, ← (Node.compared_of_order? ordered).eq_iff, beq_iff_eq]
      exact eq_comm
    exact congrArg Except.ok equal

theorem relates_swap (x y : Node) :
    relates .greaterThan x y = .ok true ↔ relates .lessThan y x = .ok true := by
  rw [relates_eq_ok_iff rfl, relates_eq_ok_iff rfl, Node.order?_swap x y]
  cases x.order? y with
  | none => simp
  | some o => cases o <;> simp

end Form

namespace Scope

variable {s : Scope} {form : Form} {left right operand : Operand} {nodes : List Node}

/-- The one value of an operand. -/
def value (s : Scope) (form : Form) (operand : Operand) : Except AssertionError Node := do
  singleValue form operand (← s.resolve operand)

/-- The test of an assertion on the value of its left operand, or on each of its members. -/
def judge (form : Form) (left : Operand) (test : Node → Except AssertionError Bool) :
    Option Quantifier → List Node → Except AssertionError Bool
  | none, nodes => singleValue form left nodes >>= test
  | some quantifier, nodes => quantify quantifier test (members nodes)

theorem apply_relation (form : Form) (value : Node) :
    (fun node => Predicate.apply ⟨form, []⟩ node (some value)) = (form.relates · value) := by
  cases form <;> rfl

theorem rightValue_relation (two : form.signature.operands = 2) (quantifier : Option Quantifier) :
    s.rightValue (.relation quantifier form left right) =
      (do return some (← s.value form right)) := by
  have fits : s.rightValue (.relation quantifier form left right) =
      s.givenValue form (some right) := rightValue_of_fits two.symm
  rw [fits, givenValue, value]
  cases s.resolve right <;> rfl

theorem leaf_relation (two : form.signature.operands = 2) (quantifier : Option Quantifier) :
    s.leaf (.relation quantifier form left right) = (do
      let nodes ← s.resolve left
      let value ← s.value form right
      judge form left (form.relates · value) quantifier nodes) := by
  have noCount : ¬ form.countsNodes := by
    unfold Form.countsNodes
    split
    · cases two
    · cases two
    · exact Bool.false_ne_true
  rw [leaf, rightValue_relation two]
  refine congrArg (s.resolve left >>= ·) (funext fun nodes => ?_)
  refine (if_neg noCount).trans ?_
  cases s.value form right with
  | error error => rfl
  | ok value =>
    have test := apply_relation form value
    cases quantifier with
    | none => exact congrArg (singleValue form left nodes >>= ·) test
    | some quantifier =>
      cases quantifier with
      | all => exact congrArg (all · (members nodes)) test
      | any => exact congrArg (any · (members nodes)) test

/-! ### Relations of two values -/

/-- The nodes of the operand are, together, this one. -/
def Denotes (s : Scope) (operand : Operand) (node : Node) : Prop :=
  ∃ nodes, s.resolve operand = .ok nodes ∧ nodes ≠ [] ∧ .ofNodes nodes = node

theorem bind_eq_ok_iff {α β ε : Type} {x : Except ε α} {f : α → Except ε β} {b : β} :
    x >>= f = .ok b ↔ ∃ a, x = .ok a ∧ f a = .ok b := by
  cases x with
  | error error => simp [bind, Except.bind]
  | ok a => simp [bind, Except.bind]

theorem singleValue_eq_ok_iff {node : Node} :
    singleValue form operand nodes = .ok node ↔ nodes ≠ [] ∧ .ofNodes nodes = node := by
  cases nodes with
  | nil => simp [singleValue]
  | cons first rest => simp [singleValue]

theorem value_eq_ok_iff {node : Node} :
    s.value form operand = .ok node ↔ s.Denotes operand node := by
  unfold value Denotes
  simp only [bind_eq_ok_iff, singleValue_eq_ok_iff]

theorem leaf_relation_eq_ok_iff (two : form.signature.operands = 2) {b : Bool} :
    s.leaf (.relation none form left right) = .ok b ↔
      ∃ x y, s.Denotes left x ∧ s.Denotes right y ∧ form.relates x y = .ok b := by
  rw [leaf_relation two]
  constructor
  · intro completes
    obtain ⟨nodes, found, completes⟩ := bind_eq_ok_iff.mp completes
    obtain ⟨y, given, completes⟩ := bind_eq_ok_iff.mp completes
    obtain ⟨x, single, holds⟩ := bind_eq_ok_iff.mp completes
    have denotes := value_eq_ok_iff.mp given
    exact ⟨x, y, ⟨nodes, found, singleValue_eq_ok_iff.mp single⟩, denotes, holds⟩
  · rintro ⟨x, y, ⟨nodes, found, single⟩, denotes, holds⟩
    refine bind_eq_ok_iff.mpr ⟨nodes, found, ?_⟩
    refine bind_eq_ok_iff.mpr ⟨y, value_eq_ok_iff.mpr denotes, ?_⟩
    exact bind_eq_ok_iff.mpr ⟨x, singleValue_eq_ok_iff.mpr single, holds⟩

/-- The relation holds one way round exactly if its reverse holds the other way round. -/
theorem leaf_reversed :
    s.leaf (.relation none .greaterThan left right) = .ok true ↔
      s.leaf (.relation none .lessThan right left) = .ok true := by
  rw [leaf_relation_eq_ok_iff rfl, leaf_relation_eq_ok_iff rfl]
  constructor
  · rintro ⟨x, y, first, second, holds⟩
    exact ⟨y, x, second, first, (Form.relates_swap x y).mp holds⟩
  · rintro ⟨y, x, second, first, holds⟩
    exact ⟨x, y, first, second, (Form.relates_swap x y).mpr holds⟩

theorem leaf_trichotomy {allows : Ordering → Bool} {b : Bool}
    (ordering : form.allows? = some allows)
    (completes : s.leaf (.relation none form left right) = .ok b) :
    ∃ o, b = allows o ∧
      ∀ other, s.leaf (.relation none (.ofOrder other) left right) = .ok (other == o) := by
  have two := Form.operands_of_allows? ordering
  obtain ⟨x, y, first, second, holds⟩ := (leaf_relation_eq_ok_iff two).mp completes
  obtain ⟨o, ordered, same⟩ := (Form.relates_eq_ok_iff ordering).mp holds
  refine ⟨o, same.symm, fun other => ?_⟩
  have twoOperands : (Form.ofOrder other).signature.operands = 2 := by cases other <;> rfl
  exact (leaf_relation_eq_ok_iff twoOperands).mpr
    ⟨x, y, first, second, Form.relates_ofOrder ordered other⟩

/-- Order and equality cohere, of nodes and of operands: an order turns around with its sides and is
that of equals exactly for what is loosely equal. So of two operands whose order a form can tell,
exactly one of `less-than`, `equals` and `greater-than` holds. -/
theorem ordering_coherent :
    (∀ a b : Node, b.order? a = (a.order? b).map .swap) ∧
    (∀ (a b : Node) (o : Ordering), a.order? b = some o → (o = .eq ↔ a.looseEquals b = true)) ∧
    (∀ (s : Scope) (left right : Operand),
      s.leaf (.relation none .greaterThan left right) = .ok true ↔
        s.leaf (.relation none .lessThan right left) = .ok true) ∧
    ∀ (s : Scope) (left right : Operand) (form : Form) (allows : Ordering → Bool) (b : Bool),
      form.allows? = some allows → s.leaf (.relation none form left right) = .ok b →
        ∃ o, b = allows o ∧
          ∀ other, s.leaf (.relation none (.ofOrder other) left right) = .ok (other == o) := by
  refine ⟨Node.order?_swap, ?_, ?_, ?_⟩
  · intro a b o ordered
    exact (Node.compared_of_order? ordered).eq_iff
  · intro s left right
    exact leaf_reversed
  · intro s left right form allows b ordering completes
    exact leaf_trichotomy ordering completes

theorem ordering_coherent_numeral :
    let x := Node.string " 3.0"
    let s : Scope := ⟨.mapping [("a", x), ("b", .integer 3)], .empty⟩
    let left := Operand.path [.field "a"]
    let right := Operand.path [.field "b"]
    x.order? (.integer 3) = some .eq ∧ x.looseEquals (.integer 3) = true ∧
      Form.allows? .lessOrEqual = some (· != .gt) ∧
      s.leaf (.relation none .lessOrEqual left right) = .ok true ∧
      ∃ o, true = (o != .gt) ∧
        ∀ other, s.leaf (.relation none (.ofOrder other) left right) = .ok (other == o) := by
  intro x s left right
  obtain ⟨_, equal, _, relations⟩ := ordering_coherent
  have ordered : x.order? (.integer 3) = some .eq := by decide +kernel
  have allows : Form.allows? .lessOrEqual = some (· != .gt) := rfl
  have completes : s.leaf (.relation none .lessOrEqual left right) = .ok true := by decide +kernel
  exact ⟨ordered, (equal x _ .eq ordered).mp rfl, allows, completes,
    relations s left right .lessOrEqual _ true allows completes⟩

end Scope

end Attest
