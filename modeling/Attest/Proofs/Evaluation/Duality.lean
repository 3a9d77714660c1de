import Attest.Proofs.Evaluation.Relations
/-!
# Negated relations

To negate a relation of two operands is to take the form that complements it and the other
quantifier: the members are tried up to the same one, whose answer is the opposite or whose error is
the same. That a list contains a value is that some member equals it.
-/

namespace Attest

/-- The error with another form in place of the one it names. -/
def AssertionError.naming (form : Form) : AssertionError → AssertionError
  | .emptyOperand _ operand => .emptyOperand form operand
  | .incompatible _ left right => .incompatible form left right
  | .notScalar _ found => .notScalar form found
  | .notCollection _ found => .notCollection form found
  | error => error

namespace Quantifier

def dual : Quantifier → Quantifier
  | .all => .any
  | .any => .all

/-- The answer to no members at all. -/
def unit : Quantifier → Bool
  | .all => true
  | .any => false

end Quantifier

/-- The form that holds of two comparable values exactly if this one does not. -/
def Form.complement? : Form → Option Form
  | .equals => some .notEquals
  | .notEquals => some .equals
  | .greaterThan => some .lessOrEqual
  | .lessOrEqual => some .greaterThan
  | .lessThan => some .greaterOrEqual
  | .greaterOrEqual => some .lessThan
  | _ => none

/-- The negated result of a form, in the name of another. -/
def opposite (form : Form) (result : Except AssertionError Bool) : Except AssertionError Bool :=
  (result.map Bool.not).mapError (.naming form)

variable {form other : Form}

theorem mapError_bind {α β ε δ : Type} (x : Except ε α) (f : α → Except ε β) (g : ε → δ) :
    (x >>= f).mapError g = x.mapError g >>= fun value => (f value).mapError g := by
  cases x <;> rfl

theorem opposite_bind {α : Type} (x : Except AssertionError α)
    (f : α → Except AssertionError Bool) :
    opposite form (x >>= f) =
      x.mapError (.naming form) >>= fun value => opposite form (f value) := by
  cases x <;> rfl

theorem naming_naming (error : AssertionError) :
    (error.naming other).naming form = error.naming form := by
  cases error <;> rfl

theorem mapError_opposite (result : Except AssertionError Bool) :
    (opposite other result).mapError (AssertionError.naming form) =
      (result.mapError (AssertionError.naming form)).map Bool.not := by
  cases result with
  | error error => exact congrArg Except.error (naming_naming error)
  | ok value => rfl

/-! ### Values -/

namespace Form

theorem order_opposite {allows rejects : Ordering → Bool} (opposed : ∀ o, rejects o = !allows o)
    (x y : Node) :
    (other.order x y).map rejects = opposite other ((form.order x y).map allows) := by
  unfold order
  cases x.order? y with
  | none => rfl
  | some o => exact congrArg Except.ok (opposed o)

theorem relates_opposite {allows rejects : Ordering → Bool} (ordering : form.allows? = some allows)
    (alsoOrdering : other.allows? = some rejects) (opposed : ∀ o, rejects o = !allows o)
    (x y : Node) : other.relates x y = opposite other (form.relates x y) := by
  rw [relates_of_allows? ordering, relates_of_allows? alsoOrdering]
  exact order_opposite opposed x y

theorem relates_complement (complements : form.complement? = some other) (x y : Node) :
    other.relates x y = opposite other (form.relates x y) := by
  cases form with
  | equals =>
    obtain rfl := Option.some.inj complements
    rfl
  | notEquals =>
    obtain rfl := Option.some.inj complements
    exact congrArg Except.ok (Bool.not_not _).symm
  | greaterThan | greaterOrEqual | lessThan | lessOrEqual =>
    obtain rfl := Option.some.inj complements
    exact relates_opposite rfl rfl (fun o => by cases o <;> rfl) x y
  | _ => cases complements

theorem operands_of_complement? (complements : form.complement? = some other) :
    form.signature.operands = 2 ∧ other.signature.operands = 2 := by
  cases form with
  | equals | notEquals | greaterThan | greaterOrEqual | lessThan | lessOrEqual =>
    obtain rfl := Option.some.inj complements
    exact ⟨rfl, rfl⟩
  | _ => cases complements

end Form

/-! ### Operands -/

namespace Scope

variable {s : Scope} {left right operand : Operand} {nodes : List Node}

theorem resolve_naming : (s.resolve operand).mapError (.naming form) = s.resolve operand := by
  unfold resolve
  split
  · rfl
  · split <;> rfl
  · rfl

theorem singleValue_naming :
    singleValue other operand nodes =
      (singleValue form operand nodes).mapError (.naming other) := by
  cases nodes <;> rfl

theorem value_naming : s.value other operand = (s.value form operand).mapError (.naming other) := by
  rw [value, value, mapError_bind, resolve_naming]
  exact congrArg (s.resolve operand >>= ·) (funext fun _ => singleValue_naming)

/-! ### Members -/

/-- Members are tried as long as each gives the answer that leaves the others to decide. -/
theorem quantify_cons (quantifier : Quantifier) (test : Node → Except AssertionError Bool)
    (node : Node) (rest : List Node) :
    quantify quantifier test (node :: rest) = test node >>= fun holds =>
      if holds = quantifier.unit then quantify quantifier test rest else .ok holds := by
  cases quantifier with
  | all =>
    refine congrArg (test node >>= ·) (funext fun holds => ?_)
    cases holds <;> rfl
  | any =>
    refine congrArg (test node >>= ·) (funext fun holds => ?_)
    cases holds <;> rfl

theorem quantify_opposite (quantifier : Quantifier) (test : Node → Except AssertionError Bool)
    (nodes : List Node) :
    quantify quantifier.dual (fun node => opposite form (test node)) nodes =
      opposite form (quantify quantifier test nodes) := by
  induction nodes with
  | nil => cases quantifier <;> rfl
  | cons node rest ih =>
    rw [quantify_cons, quantify_cons, opposite_bind, ih]
    cases test node with
    | error error => rfl
    | ok holds => cases holds <;> cases quantifier <;> rfl

theorem judge_opposite (test : Node → Except AssertionError Bool)
    (quantifier : Option Quantifier) :
    judge other left (fun node => opposite other (test node))
        (quantifier.map Quantifier.dual) nodes =
      opposite other (judge form left test quantifier nodes) := by
  cases quantifier with
  | none =>
    unfold judge
    rw [opposite_bind, ← singleValue_naming]
    rfl
  | some quantifier => exact quantify_opposite quantifier test (members nodes)

theorem leaf_complement (complements : form.complement? = some other)
    (quantifier : Option Quantifier) :
    s.leaf (.relation (quantifier.map Quantifier.dual) other left right) =
      opposite other (s.leaf (.relation quantifier form left right)) := by
  obtain ⟨two, alsoTwo⟩ := Form.operands_of_complement? complements
  rw [leaf_relation two, leaf_relation alsoTwo, opposite_bind, resolve_naming]
  refine congrArg (s.resolve left >>= ·) (funext fun nodes => ?_)
  rw [opposite_bind, ← value_naming]
  refine congrArg (s.value other right >>= ·) (funext fun value => ?_)
  have related := funext fun node => Form.relates_complement complements node value
  rw [related]
  exact judge_opposite (form.relates · value) quantifier

/-- A negated relation gives what its complement gives under the other quantifier: the same truth,
or the same error in the name of the complement. -/
theorem evaluate_complement (complements : form.complement? = some other) (s : Scope)
    (quantifier : Option Quantifier) (left right : Operand) :
    (s.evaluate (.leaf (.relation (quantifier.map Quantifier.dual) other left right))).result =
      (s.evaluate (.not (.leaf (.relation quantifier form left right)))).result.mapError
        (.naming other) :=
  leaf_complement complements quantifier

/-- The second member cannot be compared, after the first has left the result open. -/
theorem evaluate_complement_incomparable :
    let items := Node.sequence [.integer 1, .string "x", .integer 0]
    let s : Scope := ⟨.mapping [("a", items)], .empty⟩
    let left := Operand.path [.field "a"]
    let right := Operand.literal (.integer 0)
    let negated := s.evaluate (.not (.leaf (.relation (some .all) .greaterThan left right)))
    let dual := s.evaluate (.leaf (.relation (some .any) .lessOrEqual left right))
    Form.complement? .greaterThan = some .lessOrEqual ∧
      dual.result = negated.result.mapError (.naming .lessOrEqual) ∧
      negated.result = .error (.incompatible .greaterThan "string" "integer") := by
  intro items s left right negated dual
  have complements : Form.complement? .greaterThan = some .lessOrEqual := rfl
  have incomparable : negated.result = .error (.incompatible .greaterThan "string" "integer") := by
    decide +kernel
  exact ⟨complements, evaluate_complement complements s (some .all) left right, incomparable⟩

/-! ### Containment -/

/-- Several nodes, or one list. -/
def IsCollected (nodes : List Node) : Prop :=
  2 ≤ nodes.length ∨ ∃ items, nodes = [.sequence items]

theorem ofNodes_of_isCollected (collected : IsCollected nodes) :
    nodes ≠ [] ∧ Node.ofNodes nodes = .sequence (members nodes) := by
  rcases collected with several | ⟨items, rfl⟩
  · match nodes, several with
    | first :: second :: rest, _ => exact ⟨List.cons_ne_nil _ _, by cases first <;> rfl⟩
  · exact ⟨List.cons_ne_nil _ _, rfl⟩

theorem any_ok (test : Node → Bool) (nodes : List Node) :
    any (fun node => .ok (test node)) nodes = .ok (nodes.any test) := by
  induction nodes with
  | nil => rfl
  | cons node rest ih =>
    rw [any, ih, List.any_cons]
    cases test node <;> rfl

theorem leaf_contains (resolved : s.resolve left = .ok nodes) (collected : IsCollected nodes) :
    s.leaf (.relation none .contains left right) =
      (s.leaf (.relation (some .any) .equals left right)).mapError (.naming .contains) := by
  have single : singleValue .contains left nodes = .ok (.sequence (members nodes)) :=
    singleValue_eq_ok_iff.mpr (ofNodes_of_isCollected collected)
  have found : s.leaf (.relation none .contains left right) =
      s.value .contains right >>= fun value =>
        singleValue .contains left nodes >>= (Form.relates .contains · value) := by
    rw [leaf_relation rfl, resolved]
    rfl
  have tried : s.leaf (.relation (some .any) .equals left right) =
      s.value .equals right >>= fun value =>
        any (Form.relates .equals · value) (members nodes) := by
    rw [leaf_relation rfl, resolved]
    rfl
  rw [found, tried, mapError_bind, ← value_naming]
  refine congrArg (s.value .contains right >>= ·) (funext fun value => ?_)
  have equal : any (Form.relates .equals · value) (members nodes) = _ :=
    any_ok (Node.looseEquals · value) (members nodes)
  rw [single, equal]
  rfl

/-- That a list, or several nodes, contain a value is that some member equals it, and that they do
not is that no member does. -/
theorem evaluate_contains (resolved : s.resolve left = .ok nodes) (collected : IsCollected nodes) :
    (s.evaluate (.leaf (.relation none .contains left right))).result =
        (s.evaluate (.leaf (.relation (some .any) .equals left right))).result.mapError
          (.naming .contains) ∧
      (s.evaluate (.not (.leaf (.relation none .contains left right)))).result =
        (s.evaluate (.leaf (.relation (some .all) .notEquals left right))).result.mapError
          (.naming .contains) := by
  have contained : s.leaf (.relation none .contains left right) = _ :=
    leaf_contains resolved collected
  have complements : Form.complement? .equals = some .notEquals := rfl
  have dual : s.leaf (.relation (some .all) .notEquals left right) = _ :=
    leaf_complement complements (some .any)
  refine ⟨contained, ?_⟩
  calc (s.leaf (.relation none .contains left right)).map Bool.not
    _ = ((s.leaf (.relation (some .any) .equals left right)).mapError (.naming .contains)).map
          Bool.not := by rw [contained]
    _ = (s.leaf (.relation (some .all) .notEquals left right)).mapError (.naming .contains) := by
        rw [dual, mapError_opposite]

theorem evaluate_contains_repeated :
    let nodes := [Node.string "x", .integer 1]
    let s : Scope := ⟨.mapping (nodes.map ("a", ·)), .empty⟩
    let left := Operand.path [.field "a"]
    let right := Operand.literal (.string "1.0")
    let contains := s.evaluate (.leaf (.relation none .contains left right))
    s.resolve left = .ok nodes ∧ IsCollected nodes ∧ contains.result = .ok true ∧
      contains.result =
        (s.evaluate (.leaf (.relation (some .any) .equals left right))).result.mapError
          (.naming .contains) ∧
      (s.evaluate (.not (.leaf (.relation none .contains left right)))).result =
        (s.evaluate (.leaf (.relation (some .all) .notEquals left right))).result.mapError
          (.naming .contains) := by
  intro nodes s left right contains
  have resolved : s.resolve left = .ok nodes := rfl
  have collected : IsCollected nodes := .inl (by decide)
  have holds : contains.result = .ok true := by decide +kernel
  exact ⟨resolved, collected, holds, evaluate_contains resolved collected⟩

end Scope

end Attest
