import Attest.Language.Assertion
/-!
# Assertion trees

Induction over trees, the leaves of a tree, how deep its text nests, and trees with other operands.
-/

namespace Attest

/-- The operands of an assertion, from the left. -/
def Assertion.operands (a : Assertion) : List Operand :=
  a.left :: a.right.toList

def Assertion.mapOperands (replace : Operand → Operand) (a : Assertion) : Assertion :=
  { a with left := replace a.left, right := a.right.map replace }

theorem Assertion.mapOperands_eq_self {replace : Operand → Operand} {a : Assertion} :
    a.mapOperands replace = a ↔ ∀ operand ∈ a.operands, replace operand = operand := by
  obtain ⟨quantifier, predicate, left, right⟩ := a
  cases right <;> simp [mapOperands, operands]

namespace AssertionTree

/-- Induction in which a property holds of a tree because it holds of each child. -/
@[elab_as_elim, induction_eliminator]
theorem induct {motive : AssertionTree → Prop} (leaf : ∀ a, motive (.leaf a))
    (and : ∀ children, (∀ child ∈ children, motive child) → motive (.and children))
    (or : ∀ children, (∀ child ∈ children, motive child) → motive (.or children))
    (not : ∀ child, motive child → motive (.not child)) (tree : AssertionTree) : motive tree := by
  refine @AssertionTree.rec motive (fun children => ∀ child ∈ children, motive child)
    leaf and or not ?nil ?cons tree
  case nil => simp
  case cons =>
    intro first rest here later
    exact List.forall_mem_cons.mpr ⟨here, later⟩

/-! ### Leaves -/

mutual

/-- The assertions of a tree from left to right. -/
def leaves : AssertionTree → List Assertion
  | .leaf a => [a]
  | .and children => leavesOf children
  | .or children => leavesOf children
  | .not child => leaves child

def leavesOf : List AssertionTree → List Assertion
  | [] => []
  | child :: rest => leaves child ++ leavesOf rest

end

theorem length_leavesOf {children : List AssertionTree}
    (each : ∀ child ∈ children, child.leaves.length = child.leafCount) :
    (leavesOf children).length = leafCounts children := by
  induction children with
  | nil => rfl
  | cons child rest ih =>
    obtain ⟨first, later⟩ := List.forall_mem_cons.mp each
    rw [leavesOf, List.length_append, first, ih later, leafCounts]

theorem length_leaves (tree : AssertionTree) : tree.leaves.length = tree.leafCount := by
  induction tree with
  | leaf a => rfl
  | and children ih => exact length_leavesOf ih
  | or children ih => exact length_leavesOf ih
  | not child ih => exact ih

theorem mem_leavesOf {a : Assertion} {children : List AssertionTree} :
    a ∈ leavesOf children ↔ ∃ child ∈ children, a ∈ child.leaves := by
  induction children with
  | nil => simp [leavesOf]
  | cons child rest ih => simp [leavesOf, ih]

theorem leavesOf_append (first second : List AssertionTree) :
    leavesOf (first ++ second) = leavesOf first ++ leavesOf second := by
  induction first with
  | nil => rfl
  | cons child rest ih => rw [List.cons_append, leavesOf, leavesOf, ih, List.append_assoc]

/-! ### Nesting -/

mutual

/-- How many negations and parentheses the text of a tree has one in the other. -/
def nesting : AssertionTree → Nat
  | .leaf _ => 0
  | .and children => nestingOf children
  | .or children => nestingOf children
  | .not child => 1 + if child.followsNot then nesting child else 1 + nesting child

def nestingOf : List AssertionTree → Nat
  | [] => 0
  | child :: rest =>
    max (if child.followsNot then nesting child else 1 + nesting child) (nestingOf rest)

end

/-- The nesting of a tree as a child, where conjunctions and disjunctions are in parentheses. -/
def innerNesting (tree : AssertionTree) : Nat :=
  if tree.followsNot then tree.nesting else 1 + tree.nesting

theorem innerNesting_le_nestingOf {child : AssertionTree} {children : List AssertionTree}
    (member : child ∈ children) : child.innerNesting ≤ nestingOf children := by
  induction children with
  | nil => cases member
  | cons first rest ih =>
    unfold nestingOf
    rcases List.mem_cons.mp member with same | later
    · rw [same]
      exact Nat.le_max_left _ _
    · exact Nat.le_trans (ih later) (Nat.le_max_right _ _)

/-- Each conjunction and each disjunction has at least two children. -/
inductive Branching : AssertionTree → Prop
  | leaf (a : Assertion) : Branching (.leaf a)
  | and {children : List AssertionTree} (several : 2 ≤ children.length)
      (each : ∀ child ∈ children, Branching child) : Branching (.and children)
  | or {children : List AssertionTree} (several : 2 ≤ children.length)
      (each : ∀ child ∈ children, Branching child) : Branching (.or children)
  | not {child : AssertionTree} (inner : Branching child) : Branching (.not child)

/-! ### Replaced operands -/

mutual

def mapOperands (replace : Operand → Operand) : AssertionTree → AssertionTree
  | .leaf a => .leaf (a.mapOperands replace)
  | .and children => .and (mapOperandsOf replace children)
  | .or children => .or (mapOperandsOf replace children)
  | .not child => .not (mapOperands replace child)

def mapOperandsOf (replace : Operand → Operand) : List AssertionTree → List AssertionTree
  | [] => []
  | child :: rest => mapOperands replace child :: mapOperandsOf replace rest

end

theorem mapOperandsOf_eq_map (replace : Operand → Operand) (children : List AssertionTree) :
    mapOperandsOf replace children = children.map (mapOperands replace) := by
  induction children with
  | nil => rfl
  | cons child rest ih => rw [mapOperandsOf, ih, List.map_cons]

section

variable {replace : Operand → Operand}

theorem mapOperandsOf_eq_self {children : List AssertionTree} :
    mapOperandsOf replace children = children ↔
      ∀ child ∈ children, child.mapOperands replace = child := by
  induction children with
  | nil => simp [mapOperandsOf]
  | cons child rest ih => rw [mapOperandsOf, List.cons.injEq, ih, List.forall_mem_cons]

theorem forall_mem_leavesOf {p : Assertion → Prop} {children : List AssertionTree} :
    (∀ a ∈ leavesOf children, p a) ↔ ∀ child ∈ children, ∀ a ∈ child.leaves, p a := by
  simp only [mem_leavesOf]
  constructor
  · intro each child member a inside
    exact each a ⟨child, member, inside⟩
  · rintro each a ⟨child, member, inside⟩
    exact each child member a inside

theorem mapOperands_eq_self {tree : AssertionTree} :
    tree.mapOperands replace = tree ↔
      ∀ a ∈ tree.leaves, ∀ operand ∈ a.operands, replace operand = operand := by
  induction tree with
  | leaf a => simp [mapOperands, leaves, Assertion.mapOperands_eq_self]
  | and children ih =>
    rw [mapOperands, leaves, AssertionTree.and.injEq, mapOperandsOf_eq_self, forall_mem_leavesOf]
    exact forall₂_congr ih
  | or children ih =>
    rw [mapOperands, leaves, AssertionTree.or.injEq, mapOperandsOf_eq_self, forall_mem_leavesOf]
    exact forall₂_congr ih
  | not child ih => rw [mapOperands, leaves, AssertionTree.not.injEq, ih]

end

end AssertionTree

end Attest
