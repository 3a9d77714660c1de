import Attest.Proofs.Document.Composition
import Attest.Proofs.Evaluation.Children
import Attest.Proofs.Evaluation.Declarations
import Attest.Proofs.Evaluation.Leaf
import Attest.Proofs.Language.Trees
/-!
# Inlined variables

A variable may be replaced by the path that it was declared with. Only the text of operands, which
errors quote, changes.
-/

namespace Attest

/-! ### Results -/

/-- Errors that differ in the text of replaced operands, alone or in the text of an assertion. -/
inductive SameError (replace : Operand → Operand) : AssertionError → AssertionError → Prop
  | refl (error : AssertionError) : SameError replace error error
  | emptyOperand (form : Form) (operand : Operand) :
      SameError replace (.emptyOperand form operand) (.emptyOperand form (replace operand))
  | malformed (a : Assertion) :
      SameError replace (.malformed a.text) (.malformed (a.mapOperands replace).text)

/-- The same value, or errors that differ in the text of replaced operands. -/
inductive SameResult {α : Type} (replace : Operand → Operand) :
    Except AssertionError α → Except AssertionError α → Prop
  | ok (value : α) : SameResult replace (.ok value) (.ok value)
  | error {first second : AssertionError} (same : SameError replace first second) :
      SameResult replace (.error first) (.error second)

namespace SameResult

variable {α β : Type} {replace : Operand → Operand}

theorem refl (result : Except AssertionError α) : SameResult replace result result := by
  cases result with
  | ok value => exact .ok value
  | error error => exact .error (.refl error)

theorem bind {first second : Except AssertionError α} {f g : α → Except AssertionError β}
    (same : SameResult replace first second)
    (later : ∀ value, SameResult replace (f value) (g value)) :
    SameResult replace (first >>= f) (second >>= g) := by
  cases same with
  | ok value => exact later value
  | error same => exact .error same

theorem map {first second : Except AssertionError α} {f : α → β}
    (same : SameResult replace first second) : SameResult replace (first.map f) (second.map f) := by
  cases same with
  | ok value => exact .ok (f value)
  | error same => exact .error same

theorem eq_ok_iff {first second : Except AssertionError α} {value : α}
    (same : SameResult replace first second) : first = .ok value ↔ second = .ok value := by
  cases same <;> simp

end SameResult

/-! ### Leaves -/

namespace Scope

variable {s : Scope} {replace : Operand → Operand}

theorem singleValue_replace (form : Form) (operand : Operand) (nodes : List Node) :
    SameResult replace (singleValue form operand nodes)
      (singleValue form (replace operand) nodes) := by
  cases nodes with
  | nil => exact .error (.emptyOperand form operand)
  | cons node rest => exact .ok _

theorem rightValue_replace (same : ∀ operand, s.resolve (replace operand) = s.resolve operand)
    (a : Assertion) :
    SameResult replace (s.rightValue a) (s.rightValue (a.mapOperands replace)) := by
  have count : (a.mapOperands replace).right.toList.length = a.right.toList.length := by
    rw [Assertion.mapOperands, Option.toList_map, List.length_map]
  by_cases fits : 1 + a.right.toList.length = a.predicate.form.signature.operands
  · rw [rightValue_of_fits fits, rightValue_of_fits (count ▸ fits), Assertion.mapOperands]
    cases a.right with
    | none => exact .ok none
    | some operand =>
      rw [Option.map_some, givenValue, givenValue, same]
      refine (SameResult.refl _).bind fun nodes => ?_
      exact (singleValue_replace _ operand nodes).bind fun value => .ok (some value)
  · rw [rightValue_of_misfit fits, rightValue_of_misfit (count ▸ fits)]
    exact .error (.malformed a)

theorem count_replace (a : Assertion) (nodes : List Node) :
    SameResult replace (count a nodes) (count (a.mapOperands replace) nodes) := by
  have quoted : SameResult replace (.error (.malformed a.text) : Except _ Bool)
      (.error (.malformed (a.mapOperands replace).text)) := .error (.malformed a)
  have quantifier : (a.mapOperands replace).quantifier = a.quantifier := rfl
  have predicate : (a.mapOperands replace).predicate = a.predicate := rfl
  unfold count
  rw [quantifier, predicate]
  by_cases quantified : a.quantifier.isSome
  · rw [if_pos quantified, if_pos quantified]
    exact quoted
  · rw [if_neg quantified, if_neg quantified]
    by_cases present : a.predicate.form = .exists
    · rw [if_pos present, if_pos present]
      exact .ok _
    · rw [if_neg present, if_neg present]
      refine (SameResult.refl _).bind fun argument => ?_
      cases argument with
      | integer n => exact .ok _
      | _ => exact quoted

/-- A leaf gives the same when its operands are replaced by others that lead to the same nodes. -/
theorem leaf_replace (same : ∀ operand, s.resolve (replace operand) = s.resolve operand)
    (a : Assertion) : SameResult replace (s.leaf a) (s.leaf (a.mapOperands replace)) := by
  unfold leaf
  have left : s.resolve (a.mapOperands replace).left = s.resolve a.left := same a.left
  rw [left]
  refine (SameResult.refl _).bind fun nodes => ?_
  have predicate : (a.mapOperands replace).predicate = a.predicate := rfl
  have quantifier : (a.mapOperands replace).quantifier = a.quantifier := rfl
  rw [predicate, quantifier]
  split
  · exact count_replace a nodes
  · refine (rightValue_replace same a).bind fun right => ?_
    dsimp only
    split
    · refine (singleValue_replace _ a.left nodes).bind fun value => ?_
      exact .refl _
    · exact .refl _
    · exact .refl _

end Scope

/-! ### Trees -/

namespace AssertionTree

variable {replace : Operand → Operand} {leaf : Assertion → Except AssertionError Bool}

theorem EvaluatesWhile.same {unit : Bool} {each : List AssertionTree → Outcome}
    {children : List AssertionTree} (evaluates : EvaluatesWhile leaf unit each)
    (inner : ∀ child ∈ children, SameResult replace (child.evaluate leaf).result
      ((child.mapOperands replace).evaluate leaf).result) :
    SameResult replace (each children).result (each (mapOperandsOf replace children)).result := by
  induction children with
  | nil => exact .refl _
  | cons child rest ih =>
    obtain ⟨first, later⟩ := List.forall_mem_cons.mp inner
    rw [mapOperandsOf]
    by_cases holds : (child.evaluate leaf).result = .ok unit
    · rw [evaluates.goes _ _ holds, evaluates.goes _ _ (first.eq_ok_iff.mp holds)]
      exact ih later
    · have differs := mt first.eq_ok_iff.mpr holds
      rw [evaluates.stops _ _ holds, evaluates.stops _ _ differs]
      exact first

theorem evaluate_replace
    (leaves : ∀ a, SameResult replace (leaf a) (leaf (a.mapOperands replace)))
    (tree : AssertionTree) :
    SameResult replace (tree.evaluate leaf).result
      ((tree.mapOperands replace).evaluate leaf).result := by
  induction tree with
  | leaf a => exact leaves a
  | and children ih => exact evaluateAll_while.same ih
  | or children ih => exact evaluateAny_while.same ih
  | not child ih => exact ih.map

end AssertionTree

/-! ### Inlined variables -/

/-- Steps from a variable may follow its path: they begin with no index, or the path ends in a
field of a single node. -/
def joins (document : Node) (path steps : Path) : Bool :=
  match steps.head?, path.getLast? with
  | some (.index _), some (.field _) => (document.resolve path.dropLast).length = 1
  | some (.index _), _ => false
  | _, _ => true

/-- A variable is replaced by its path where steps from it may follow the path. -/
def Operand.inline (document : Node) (declarations : List Declaration) : Operand → Operand
  | .variable name steps =>
    match declarations.find? fun d => d.name = name with
    | some d =>
      if joins document d.path steps then .path (d.path ++ steps) else .variable name steps
    | none => .variable name steps
  | operand => operand

/-- An index from a variable counts as one right after the field that ends its path. -/
theorem resolveBound_field {document node : Node} {init : Path} {key : String}
    (single : document.resolve init = [node]) (position : Nat) (rest : Path) :
    resolveBound (document.resolve (init ++ [.field key])) (.index position :: rest) =
      document.resolve (init ++ .field key :: .index position :: rest) := by
  unfold Node.resolve at single ⊢
  have apart (later : Path) : ¬ Straddles init (.field key :: later) :=
    not_straddles_of_head (by simp) init
  have alone : ¬ Straddles [.field key] [] := not_straddles_of_head (by simp) _
  rw [resolveNodes_append (apart _), resolveNodes_append (apart _), single, resolveNodes_lookup,
    resolveNodes_cons alone]
  simp only [List.flatMap_cons, List.flatMap_nil, List.append_nil, step_field, resolveNodes,
    resolveBound, List.filterMap_cons, List.filterMap_nil, Node.fieldIndex]
  cases (members (node.getAll key))[position]? <;> rfl

theorem resolveBound_of_head {nodes : List Node} {path : Path}
    (apart : ∀ position rest, path ≠ .index position :: rest) :
    resolveBound nodes path = resolveNodes nodes path := by
  unfold resolveBound
  split
  · next position rest => exact absurd rfl (apart position rest)
  · rfl

/-- The nodes of a variable and steps from it are those of its path and the steps. -/
theorem resolveBound_resolve {document : Node} {path steps : Path}
    (joined : joins document path steps) :
    resolveBound (document.resolve path) steps = document.resolve (path ++ steps) := by
  unfold joins at joined
  split at joined
  · next position key counted field =>
    obtain ⟨rest, rfl⟩ := List.head?_eq_some_iff.mp counted
    obtain ⟨init, rfl⟩ := List.getLast?_eq_some_iff.mp field
    rw [List.dropLast_concat, decide_eq_true_eq, List.length_eq_one_iff] at joined
    obtain ⟨node, single⟩ := joined
    rw [resolveBound_field single, List.append_assoc]
    rfl
  · cases joined
  · next notIndex _ =>
    have apart : ∀ position rest, steps ≠ .index position :: rest := by
      rintro position rest rfl
      exact notIndex position rfl
    rw [resolveBound_of_head apart]
    exact (resolveNodes_append (not_straddles_of_head apart path)).symm

theorem resolve_inline {document : Node} {declarations : List Declaration}
    (bound : (Store.empty.resolve document declarations).error = none) (operand : Operand) :
    let s : Scope := ⟨document, (Store.empty.resolve document declarations).store⟩
    s.resolve (operand.inline document declarations) = s.resolve operand := by
  match operand with
  | .path steps => rfl
  | .literal value => rfl
  | .variable name steps =>
    intro s
    have binding := Store.get?_resolve bound name
    unfold Operand.inline
    dsimp only
    split
    · next d found =>
      split
      · next joined =>
        rw [found] at binding
        simp only [Scope.resolve, s, binding]
        rw [resolveBound_resolve joined]
      · rfl
    · rfl

/-- A tree gives the same when its variables are replaced by the paths they were declared with. -/
theorem Scope.evaluate_inline {document : Node} {declarations : List Declaration}
    (bound : (Store.empty.resolve document declarations).error = none) (tree : AssertionTree) :
    let s : Scope := ⟨document, (Store.empty.resolve document declarations).store⟩
    let replace := Operand.inline document declarations
    SameResult replace (s.evaluate tree).result (s.evaluate (tree.mapOperands replace)).result := by
  intro s replace
  have same : ∀ operand, s.resolve (replace operand) = s.resolve operand := resolve_inline bound
  exact AssertionTree.evaluate_replace (leaf_replace same) tree

/-- Items under a name, and assertions about one of them and about all. -/
def AssertionTree.ofVariable : AssertionTree :=
  .and [
    .leaf ⟨none, ⟨.equals, []⟩, .variable "v" [.index 1], some (.literal (.integer 2))⟩,
    .not (.leaf ⟨some .any, ⟨.startsWith, []⟩, .variable "v" [], some (.variable "v" [.wildcard])⟩)]

theorem Scope.evaluate_inline_ofVariable :
    let document : Node := .mapping [("a", .sequence [.integer 1, .integer 2])]
    let declarations : List Declaration := [⟨"v", [.field "a"]⟩]
    let s : Scope := ⟨document, (Store.empty.resolve document declarations).store⟩
    let replace := Operand.inline document declarations
    (Store.empty.resolve document declarations).error = none ∧
      SameResult replace (s.evaluate .ofVariable).result
        (s.evaluate (AssertionTree.ofVariable.mapOperands replace)).result := by
  intro document declarations s replace
  have bound : (Store.empty.resolve document declarations).error = none := by decide
  exact ⟨bound, evaluate_inline bound .ofVariable⟩

/-- An error about an assertion that no source has quotes the assertion, and so its operands. -/
theorem Scope.evaluate_inline_needs_quoted_assertions :
    ¬ ∀ (document : Node) (declarations : List Declaration) (tree : AssertionTree),
        (Store.empty.resolve document declarations).error = none →
        let s : Scope := ⟨document, (Store.empty.resolve document declarations).store⟩
        let inlined := tree.mapOperands (Operand.inline document declarations)
        (s.evaluate tree).result = (s.evaluate inlined).result ∨
          ∃ form first second, (s.evaluate tree).result = .error (.emptyOperand form first) ∧
            (s.evaluate inlined).result = .error (.emptyOperand form second) := by
  intro every
  have equal := every (.mapping [("a", .integer 1)]) [⟨"v", [.field "a"]⟩]
    (.leaf ⟨some .all, ⟨.exists, []⟩, .variable "v" [], none⟩) (by decide)
  rcases equal with same | ⟨form, first, second, empty, _⟩
  · have texts := AssertionError.malformed.inj (Except.error.inj same)
    exact absurd texts (by decide +kernel)
  · have kinds := Except.error.inj empty
    cases kinds

end Attest
