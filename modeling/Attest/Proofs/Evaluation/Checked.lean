import Attest.Proofs.Evaluation.Declarations
import Attest.Proofs.Evaluation.Leaf
import Attest.Proofs.Evaluation.ShortCircuit
import Attest.Proofs.Syntax.Leaves
import Attest.Proofs.Syntax.Sources
/-!
# Errors of checked assertions

The checks that are made while an assertion is read leave only errors that come from the document
and from variables. An assertion that is well formed is never malformed to the evaluation, and its
patterns compile.
-/

namespace Attest

/-! ### Errors of results -/

/-- Whatever error the result is, it is an allowed one. -/
def Fails {α : Type} (allowed : AssertionError → Prop) (result : Except AssertionError α) : Prop :=
  ∀ error, result = .error error → allowed error

namespace Fails

variable {α β : Type} {allowed others : AssertionError → Prop} {result : Except AssertionError α}

theorem ok (x : α) : Fails allowed (.ok x) := by
  intro error failed
  cases failed

theorem error {e : AssertionError} (here : allowed e) :
    Fails allowed (.error e : Except AssertionError α) := by
  intro error failed
  cases failed
  exact here

theorem mono (fails : Fails allowed result) (weaker : ∀ e, allowed e → others e) :
    Fails others result :=
  fun e failed => weaker e (fails e failed)

theorem bind {f : α → Except AssertionError β} (first : Fails allowed result)
    (rest : ∀ x, result = .ok x → Fails allowed (f x)) : Fails allowed (result >>= f) := by
  cases result with
  | error e =>
    intro error failed
    cases failed
    exact first e rfl
  | ok x => exact rest x rfl

theorem map {f : α → β} (first : Fails allowed result) : Fails allowed (result.map f) := by
  cases result with
  | error e =>
    intro error failed
    cases failed
    exact first e rfl
  | ok x => exact ok (f x)

end Fails

namespace AssertionError

/-- The errors that are about the kinds of values. -/
inductive OfValues : AssertionError → Prop
  | incompatible (form : Form) (left right : String) : OfValues (.incompatible form left right)
  | notScalar (form : Form) (found : String) : OfValues (.notScalar form found)
  | notCollection (form : Form) (found : String) : OfValues (.notCollection form found)

end AssertionError

open AssertionError (OfValues)

/-! ### Predicates -/

namespace Form

variable {form : Form} {left right : Node}

theorem fails_scalarText : Fails OfValues (form.scalarText left) := by
  unfold scalarText
  split
  · exact .ok _
  · exact .error (.notScalar form left.kind)

theorem fails_order : Fails OfValues (form.order left right) := by
  unfold order
  split
  · exact .ok _
  · exact .error (.incompatible form left.kind right.kind)

theorem fails_holds : Fails OfValues (form.holds left right) := by
  cases left with
  | sequence items => exact .ok _
  | mapping entries => exact fails_scalarText.bind fun _ _ => .ok _
  | _ => exact .error (.notCollection form _)

theorem fails_compareTexts {relation : String → String → Bool} :
    Fails OfValues (form.compareTexts relation left right) :=
  fails_scalarText.bind fun _ _ => fails_scalarText.bind fun _ _ => .ok _

theorem fails_compareOrder {relation : Ordering → Bool} :
    Fails OfValues (form.compareOrder relation left right) :=
  fails_order.map

end Form

namespace Predicate

open Form

variable {p : Predicate} {left right : Node}

theorem argument_eq_ok {position : Nat} (inside : position < p.arguments.length) :
    p.argument position = .ok p.arguments[position] := by
  unfold argument
  rw [List.getElem?_eq_getElem inside]

theorem fails_applyPattern (count : p.arguments.length = 1)
    (admitted : ∀ value ∈ p.arguments, Form.matches.Admits value) :
    Fails OfValues (p.applyPattern left) := by
  have inside : 0 < p.arguments.length := by omega
  obtain ⟨pattern, expr, same, compiled⟩ := admitted _ (List.getElem_mem inside)
  unfold applyPattern
  rw [argument_eq_ok inside, same]
  refine Fails.bind (.ok _) fun value read => ?_
  cases read
  simp only [compiled]
  exact Fails.bind (.ok _) fun _ _ => fails_scalarText.bind fun _ _ => .ok _

theorem fails_applyBounds (count : p.arguments.length = 2) :
    Fails OfValues (p.applyBounds left) := by
  unfold applyBounds
  rw [argument_eq_ok (by omega : 0 < p.arguments.length),
    argument_eq_ok (by omega : 1 < p.arguments.length)]
  refine Fails.bind (.ok _) fun _ _ => Fails.bind (.ok _) fun _ _ => fails_order.bind fun _ _ => ?_
  split
  · exact .ok _
  · exact fails_order.bind fun _ _ => .ok _

theorem fails_applyPair (pair : p.form.signature.operands = 2) :
    Fails OfValues (p.applyPair left right) := by
  unfold applyPair
  cases form : p.form with
  | equals | notEquals => exact .ok _
  | contains => exact fails_holds
  | equalsIgnoreCase | startsWith | endsWith => exact fails_compareTexts
  | greaterThan | greaterOrEqual | lessThan | lessOrEqual => exact fails_compareOrder
  | «exists» | size | «matches» | between =>
    rw [form] at pair
    cases pair

/-- A predicate with the arguments that its form takes fails only on values. -/
theorem fails_apply (count : p.arguments.length = p.form.signature.arguments)
    (admitted : ∀ value ∈ p.arguments, p.form.Admits value) (noCount : ¬ p.form.countsNodes)
    {right : Option Node} (operands : 1 + right.toList.length = p.form.signature.operands) :
    Fails OfValues (p.apply left right) := by
  unfold apply
  split
  · next form =>
    rw [form] at count admitted
    exact fails_applyPattern count admitted
  · next form =>
    rw [form] at count
    exact fails_applyBounds count
  · exact fails_applyPair operands.symm
  · next notMatches notBetween =>
    -- Only forms that count nodes have a single operand and no right value.
    exfalso
    cases form : p.form with
    | «exists» | size =>
      rw [form] at noCount
      exact noCount rfl
    | «matches» => exact notMatches form
    | between => exact notBetween form
    | _ =>
      rw [form] at operands
      cases operands

end Predicate

/-! ### Assertions -/

namespace Scope

variable {s : Scope} {a : Assertion} {allowed : AssertionError → Prop}

theorem fails_all {test : Node → Except AssertionError Bool} {nodes : List Node}
    (each : ∀ node, Fails allowed (test node)) : Fails allowed (all test nodes) := by
  induction nodes with
  | nil => exact .ok _
  | cons node rest ih =>
    unfold all
    refine (each node).bind fun holds _ => ?_
    cases holds with
    | true => exact ih
    | false => exact .ok _

theorem fails_any {test : Node → Except AssertionError Bool} {nodes : List Node}
    (each : ∀ node, Fails allowed (test node)) : Fails allowed (any test nodes) := by
  induction nodes with
  | nil => exact .ok _
  | cons node rest ih =>
    unfold any
    refine (each node).bind fun holds _ => ?_
    cases holds with
    | true => exact .ok _
    | false => exact ih

/-- The errors that a well-formed assertion leaves: a variable that is not bound, an operand that
leads nowhere, and values of the wrong kinds. -/
inductive Remaining (s : Scope) (a : Assertion) : AssertionError → Prop
  | undefinedVariable {name : String} {steps : Path} (operand : .variable name steps ∈ a.operands)
      (absent : s.store.get? name = none) : Remaining s a (.undefinedVariable name)
  | emptyOperand (operand : Operand) : Remaining s a (.emptyOperand a.predicate.form operand)
  | ofValues {error : AssertionError} (values : OfValues error) : Remaining s a error

theorem fails_resolve {operand : Operand} (member : operand ∈ a.operands) :
    Fails (s.Remaining a) (s.resolve operand) := by
  cases operand with
  | path steps => exact .ok _
  | literal value => exact .ok _
  | «variable» name steps =>
    unfold resolve
    dsimp only
    split
    · exact .ok _
    · next absent => exact .error (.undefinedVariable member absent)

theorem fails_singleValue {operand : Operand} {nodes : List Node} :
    Fails (s.Remaining a) (singleValue a.predicate.form operand nodes) := by
  cases nodes with
  | nil => exact .error (.emptyOperand operand)
  | cons => exact .ok _

theorem fails_count {nodes : List Node} (wellFormed : a.WellFormed)
    (counts : a.predicate.form.countsNodes) : Fails (s.Remaining a) (count a nodes) := by
  unfold count
  rw [wellFormed.unquantified counts, Option.isSome_none, if_neg Bool.false_ne_true]
  split
  · exact .ok _
  · next notExists =>
    have size : a.predicate.form = .size := by
      generalize a.predicate.form = form at counts notExists
      cases form <;> first | rfl | contradiction
    have inside : 0 < a.predicate.arguments.length := by
      rw [wellFormed.arguments, size]
      exact Nat.one_pos
    have admitted := wellFormed.admitted _ (List.getElem_mem inside)
    rw [size] at admitted
    obtain ⟨n, same⟩ := admitted
    rw [Predicate.argument_eq_ok inside, same]
    exact Fails.bind (.ok _) fun value read => by
      cases read
      exact .ok _

theorem fails_rightValue (wellFormed : a.WellFormed) : Fails (s.Remaining a) (s.rightValue a) := by
  rw [rightValue_of_fits wellFormed.operands]
  cases given : a.right with
  | none => exact .ok _
  | some operand =>
    have member : operand ∈ a.operands := by simp [Assertion.operands, given]
    exact (fails_resolve member).bind fun _ _ => fails_singleValue.bind fun _ _ => .ok _

theorem length_of_givenValue {form : Form} {operand : Option Operand} {right : Option Node}
    (read : s.givenValue form operand = .ok right) :
    right.toList.length = operand.toList.length := by
  cases operand with
  | none =>
    cases read
    rfl
  | some operand =>
    rw [givenValue] at read
    cases found : s.resolve operand with
    | error e =>
      rw [found] at read
      cases read
    | ok nodes =>
      rw [found] at read
      replace read : (singleValue form operand nodes).map some = .ok right := read
      generalize singleValue form operand nodes = value at read
      cases value with
      | error e => cases read
      | ok node =>
        cases read
        rfl

theorem operands_of_rightValue {right : Option Node} (read : s.rightValue a = .ok right) :
    1 + right.toList.length = a.predicate.form.signature.operands := by
  by_cases fits : 1 + a.right.toList.length = a.predicate.form.signature.operands
  · rw [rightValue_of_fits fits] at read
    rw [length_of_givenValue read, fits]
  · rw [rightValue_of_misfit fits] at read
    cases read

theorem fails_leaf (wellFormed : a.WellFormed) : Fails (s.Remaining a) (s.leaf a) := by
  unfold leaf
  refine (fails_resolve List.mem_cons_self).bind fun nodes _ => ?_
  split
  · next counts => exact fails_count wellFormed counts
  · next noCount =>
    refine (fails_rightValue wellFormed).bind fun right read => ?_
    have test (node : Node) : Fails (s.Remaining a) (a.predicate.apply node right) := by
      have values : Fails OfValues (a.predicate.apply node right) :=
        Predicate.fails_apply wellFormed.arguments wellFormed.admitted noCount
          (operands_of_rightValue read)
      exact values.mono fun _ => .ofValues
    split
    · exact fails_singleValue.bind fun node _ => test node
    · exact fails_all test
    · exact fails_any test

end Scope

/-! ### Trees -/

/-- An evaluation that fails has the error of one of its leaves. -/
theorem AssertionTree.exists_leaf_of_error {leaf : Assertion → Except AssertionError Bool}
    {tree : AssertionTree} {error : AssertionError}
    (failed : (tree.evaluate leaf).result = .error error) :
    ∃ a ∈ tree.leaves, leaf a = .error error := by
  obtain ⟨reached, reaches, _⟩ := evaluate_reaches leaf tree
  rw [failed] at reaches
  obtain ⟨_, last, _, fails⟩ := reaches.fails
  obtain ⟨a, here, ends⟩ := fails.failing
  exact ⟨a, List.mem_of_getElem? here, ends⟩

theorem Scope.exists_remaining_of_error {s : Scope} {tree : AssertionTree} {error : AssertionError}
    (wellFormed : ∀ a ∈ tree.leaves, a.WellFormed)
    (failed : (s.evaluate tree).result = .error error) :
    ∃ a ∈ tree.leaves, s.Remaining a error := by
  obtain ⟨a, member, ends⟩ := AssertionTree.exists_leaf_of_error failed
  exact ⟨a, member, fails_leaf (wellFormed a member) error ends⟩

/-! ### Sources -/

namespace Store

variable {before : Store} {document : Node} {declarations : List Declaration}

theorem exists_binding_of_resolve (bound : (before.resolve document declarations).error = none)
    {name : String} (known : name ∈ declarations.map (·.name)) :
    ∃ binding, (before.resolve document declarations).store.get? name = some binding := by
  rw [get?_resolve bound name]
  split
  · exact ⟨_, rfl⟩
  · next missing =>
    obtain ⟨d, member, named⟩ := List.mem_map.mp known
    have differs := List.find?_eq_none.mp missing d member
    simp [named] at differs

end Store

namespace Rules

variable {declared : List String}

/-- An operand whose first token is an identifier is a path or a declared variable, which a store
that binds the declared names resolves. -/
theorem OneOperand.resolves {s : Scope} {word : String} {ts : List Token} {operand : Operand}
    (derived : OneOperand declared (.identifier word :: ts) operand)
    (bound : ∀ name ∈ declared, ∃ binding, s.store.get? name = some binding) :
    ∃ nodes, s.resolve operand = .ok nodes := by
  generalize tokens : Token.identifier word :: ts = us at derived
  cases derived with
  | literal value => cases value <;> cases tokens
  | «variable» name steps => cases tokens
  | @declared _ path name known steps =>
    obtain ⟨binding, found⟩ := bound name known
    refine ⟨resolveBound binding.nodes path, ?_⟩
    simp only [Scope.resolve, found]
  | path steps unknown => exact ⟨_, rfl⟩

theorem OneOperand.mem_of_variable {name : String} {ts : List Token} {steps : Path}
    (derived : OneOperand declared ts (.variable name steps)) (undeclared : name ∉ declared) :
    .variable name ∈ ts := by
  cases derived with
  | «variable» name steps => exact List.mem_cons_self
  | declared known steps => exact absurd known undeclared

end Rules

namespace Specification

open Rules

variable {source : String} {spec : Specification}

/-- What is read of a source is never malformed to the evaluation, and its patterns are valid,
whatever the document and the variables are. Once its declarations are bound, a variable that is not
defined is one that no declaration names, and it is written with `$`: identifiers never are the
cause. -/
theorem evaluate_checked (read : parse source = .ok spec) :
    (∀ (s : Scope) (error : AssertionError),
      (s.evaluate spec.assertions).result = .error error →
        (∀ text, error ≠ .malformed text) ∧
          ∀ pattern fault, error ≠ .invalidPattern pattern fault) ∧
    ∀ (before : Store) (document : Node),
      (before.resolve document spec.declarations).error = none →
      (∀ name,
        (Scope.evaluate ⟨document, (before.resolve document spec.declarations).store⟩
            spec.assertions).result = .error (.undefinedVariable name) →
          (∃ a ∈ spec.assertions.leaves, ∃ steps, .variable name steps ∈ a.operands) ∧
            (∀ d ∈ spec.declarations, d.name ≠ name) ∧
              .variable name ∈ sourceTokens (lex source)) ∧
      ∀ word ts operand,
        OneOperand (spec.declarations.map (·.name)) (.identifier word :: ts) operand →
          ∃ nodes,
            Scope.resolve ⟨document, (before.resolve document spec.declarations).store⟩ operand =
              .ok nodes := by
  have derives := (source_of_ofLexemes read).derives
  have wellFormed : ∀ a ∈ spec.assertions.leaves, a.WellFormed := by
    intro a member
    obtain ⟨_, derived, _⟩ := derives a member
    exact derived.wellFormed
  refine ⟨fun s error failed => ?_, fun before document bound => ⟨fun name failed => ?_, ?_⟩⟩
  · obtain ⟨a, _, remaining⟩ := Scope.exists_remaining_of_error wellFormed failed
    cases remaining with
    | undefinedVariable => exact ⟨by simp, by simp⟩
    | emptyOperand => exact ⟨by simp, by simp⟩
    | ofValues values => cases values <;> exact ⟨by simp, by simp⟩
  · obtain ⟨a, member, remaining⟩ := Scope.exists_remaining_of_error wellFormed failed
    cases remaining with
    | ofValues values => cases values
    | @undefinedVariable _ steps operand absent =>
      have undeclared : name ∉ spec.declarations.map (·.name) := by
        intro known
        obtain ⟨binding, found⟩ := Store.exists_binding_of_resolve bound known
        rw [absent] at found
        cases found
      obtain ⟨us, derived, inside⟩ := derives a member
      obtain ⟨ts, written, within⟩ := derived.operand operand
      refine ⟨⟨a, member, steps, operand⟩, fun d declared same => ?_, ?_⟩
      · exact undeclared (List.mem_map.mpr ⟨d, declared, same⟩)
      · exact inside.subset (within (written.mem_of_variable undeclared))
  · intro word ts operand derived
    exact derived.resolves fun name known => Store.exists_binding_of_resolve bound known

/-- What is read of `let v = a; equals(v, $w)`. -/
def unbound : Specification :=
  ⟨[⟨"v", [.field "a"]⟩],
    .leaf ⟨none, ⟨.equals, []⟩, .variable "v" [], some (.variable "w" [])⟩⟩

theorem source_unbound : Source
    [.letWord, .identifier "v", .equals, .identifier "a", .semicolon, .identifier "equals",
      .leftParen, .identifier "v", .comma, .variable "w", .rightParen] unbound := by
  have declarations : Declarations _ unbound.declarations :=
    .cons "v" (.head (.field "a") .nil) .nil
  have wellFormed : Assertion.WellFormed
      ⟨none, ⟨.equals, []⟩, .variable "v" [], some (.variable "w" [])⟩ :=
    ⟨rfl, rfl, by simp, nofun, nofun⟩
  have left : OneOperand ["v"] [.identifier "v"] (.variable "v" []) :=
    .declared List.mem_cons_self .nil
  have leaf := Leaf.intro left (.some (.variable "w" .nil)) wellFormed
  have statement : Disjunction ["v"] maxNesting _ _ := ⟨_, .last (.last (.leaf leaf)), rfl⟩
  exact .intro declarations (.last statement) (by simp)

theorem evaluate_checked_unbound :
    let source := "let v = a; equals(v, $w)"
    let document := Node.mapping [("a", .integer 1)]
    let bound := Store.empty.resolve document unbound.declarations
    parse source = .ok unbound ∧ bound.error = none ∧
      (Scope.evaluate ⟨document, bound.store⟩ unbound.assertions).result =
        .error (.undefinedVariable "w") ∧
      .variable "w" ∈ sourceTokens (lex source) := by
  intro source document bound
  have tokens : sourceTokens (lex source) = [.letWord, .identifier "v", .equals, .identifier "a",
      .semicolon, .identifier "equals", .leftParen, .identifier "v", .comma, .variable "w",
      .rightParen] := by decide +kernel
  have read : parse source = .ok unbound := by
    refine ofLexemes_of_source ?_
    rw [tokens]
    exact source_unbound
  have failed : (Scope.evaluate ⟨document, bound.store⟩ unbound.assertions).result =
      .error (.undefinedVariable "w") := rfl
  obtain ⟨_, _, written⟩ := ((evaluate_checked read).2 .empty document rfl).1 "w" failed
  exact ⟨read, rfl, failed, written⟩

end Specification

end Attest
