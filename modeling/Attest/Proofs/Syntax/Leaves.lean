import Attest.Proofs.Language.Trees
import Attest.Proofs.Syntax.Chains
/-!
# Leaves of a source

Each assertion of a tree that the rules derive is itself derived, from some of the tokens in a row.
Each conjunction and each disjunction of such a tree has several children.
-/

namespace Attest

namespace AssertionTree

theorem leaves_joined_and (trees : List AssertionTree) :
    (Rules.joined .and trees).leaves = leavesOf trees := by
  match trees with
  | [] => rfl
  | [tree] => rw [leavesOf, leavesOf, List.append_nil, Rules.joined]
  | _ :: _ :: _ => rfl

theorem leaves_joined_or (trees : List AssertionTree) :
    (Rules.joined .or trees).leaves = leavesOf trees := by
  match trees with
  | [] => rfl
  | [tree] => rw [leavesOf, leavesOf, List.append_nil, Rules.joined]
  | _ :: _ :: _ => rfl

end AssertionTree

namespace Rules

open AssertionTree

variable {declared : List String} {room : Nat} {ts us : List Token} {tree : AssertionTree}
  {trees : List AssertionTree}

/-- Each of the assertions is derived from tokens that stand among these in a row. -/
def Derives (declared : List String) (ts : List Token) (leaves : List Assertion) : Prop :=
  ∀ a ∈ leaves, ∃ us, Leaf declared us a ∧ us <:+: ts

theorem Derives.mono {leaves : List Assertion} (derives : Derives declared ts leaves)
    (inside : ts <:+: us) : Derives declared us leaves := by
  intro a member
  obtain ⟨vs, leaf, within⟩ := derives a member
  exact ⟨vs, leaf, within.trans inside⟩

theorem Derives.append {leaves others : List Assertion} (first : Derives declared ts leaves)
    (second : Derives declared us others) (separator : List Token) :
    Derives declared (ts ++ (separator ++ us)) (leaves ++ others) := by
  intro a member
  rcases List.mem_append.mp member with here | there
  · exact first.mono (List.prefix_append ts _).isInfix a here
  · have inside : us <:+: ts ++ (separator ++ us) := by
      rw [← List.append_assoc]
      exact (List.suffix_append _ us).isInfix
    exact second.mono inside a there

mutual

theorem Part.derives {room : Nat} {ts : List Token} {tree : AssertionTree} :
    Part declared room ts tree → Derives declared ts tree.leaves
  | .leaf derived => by
    intro a member
    rw [leaves, List.mem_singleton] at member
    subst member
    exact ⟨_, derived, List.infix_refl _⟩
  | .not inner => inner.derives.mono (List.suffix_cons _ _).isInfix
  | .group inner => by
    rw [leaves_joined_or]
    have inside : ∀ ts : List Token, ts <:+: .leftParen :: (ts ++ [.rightParen]) :=
      fun ts => ⟨[.leftParen], [.rightParen], rfl⟩
    exact inner.derives.mono (inside _)

theorem Conjuncts.derives {room : Nat} {ts : List Token} {trees : List AssertionTree} :
    Conjuncts declared room ts trees → Derives declared ts (leavesOf trees)
  | .last part => by
    rw [leavesOf, leavesOf, List.append_nil]
    exact part.derives
  | .more part rest => part.derives.append rest.derives [.andWord]

theorem Disjuncts.derives {room : Nat} {ts : List Token} {trees : List AssertionTree} :
    Disjuncts declared room ts trees → Derives declared ts (leavesOf trees)
  | .last conjunction => by
    rw [leavesOf, leavesOf, List.append_nil, leaves_joined_and]
    exact conjunction.derives
  | .more conjunction rest => by
    rw [leavesOf, leaves_joined_and]
    exact conjunction.derives.append rest.derives [.orWord]

end

theorem Disjunction.derives (statement : Disjunction declared room ts tree) :
    Derives declared ts tree.leaves := by
  obtain ⟨trees, disjuncts, rfl⟩ := statement
  rw [leaves_joined_or]
  exact disjuncts.derives

theorem Statements.derives (statements : Statements declared ts trees) :
    Derives declared ts (leavesOf trees) := by
  induction statements with
  | nil =>
    intro a member
    cases member
  | empty _ ih => exact ih.mono (List.suffix_cons _ _).isInfix
  | last statement =>
    rw [leavesOf, leavesOf, List.append_nil]
    exact statement.derives
  | cons statement _ ih => exact statement.derives.append ih [.semicolon]

/-- Each assertion of a source is derived from tokens of the source. -/
theorem Source.derives {spec : Specification} (source : Source ts spec) :
    Derives (spec.declarations.map (·.name)) ts spec.assertions.leaves := by
  cases source with
  | intro _ statements _ =>
    rw [leaves_joined_and]
    exact statements.derives.mono (List.suffix_append _ _).isInfix

theorem Leaf.wellFormed {a : Assertion} (derived : Leaf declared ts a) : a.WellFormed := by
  cases derived with
  | intro _ _ wellFormed => exact wellFormed

/-- Each operand of an assertion is derived from tokens of the assertion. -/
theorem Leaf.operand {a : Assertion} {operand : Operand} (derived : Leaf declared ts a)
    (member : operand ∈ a.operands) : ∃ us, OneOperand declared us operand ∧ us ⊆ ts := by
  obtain ⟨quantifier, predicate, left, right⟩ := a
  cases derived with
  | @intro us vs _ first second _ =>
    rcases List.mem_cons.mp member with rfl | member
    · refine ⟨us, first, fun t inside => ?_⟩
      simp [inside]
    · obtain rfl := Option.mem_toList.mp member
      cases second with
      | @some ws _ derived =>
        refine ⟨ws, derived, fun t inside => ?_⟩
        simp [inside]

/-! ### Branches -/

/-- What holds of one tree for itself and of several joined. -/
theorem joined_cases {join : List AssertionTree → AssertionTree} {motive : AssertionTree → Prop}
    (nonempty : trees ≠ []) (single : ∀ tree ∈ trees, motive tree)
    (several : 2 ≤ trees.length → motive (join trees)) : motive (joined join trees) := by
  match trees with
  | [] => exact absurd rfl nonempty
  | [tree] => exact single tree (List.mem_singleton_self tree)
  | _ :: _ :: _ => exact several (by simp)

theorem branching_joined_and (nonempty : trees ≠ []) (each : ∀ tree ∈ trees, tree.Branching) :
    (joined .and trees).Branching :=
  joined_cases nonempty each fun several => .and several each

theorem branching_joined_or (nonempty : trees ≠ []) (each : ∀ tree ∈ trees, tree.Branching) :
    (joined .or trees).Branching :=
  joined_cases nonempty each fun several => .or several each

theorem Conjuncts.ne_nil (conjuncts : Conjuncts declared room ts trees) : trees ≠ [] := by
  cases conjuncts <;> exact List.cons_ne_nil _ _

theorem Disjuncts.ne_nil (disjuncts : Disjuncts declared room ts trees) : trees ≠ [] := by
  cases disjuncts <;> exact List.cons_ne_nil _ _

mutual

theorem Part.branching {room : Nat} {ts : List Token} {tree : AssertionTree} :
    Part declared room ts tree → tree.Branching
  | .leaf _ => .leaf _
  | .not inner => .not inner.branching
  | .group inner => branching_joined_or inner.ne_nil inner.branching

theorem Conjuncts.branching {room : Nat} {ts : List Token} {trees : List AssertionTree} :
    Conjuncts declared room ts trees → ∀ tree ∈ trees, tree.Branching
  | .last part => List.forall_mem_singleton.mpr part.branching
  | .more part rest => List.forall_mem_cons.mpr ⟨part.branching, rest.branching⟩

theorem Disjuncts.branching {room : Nat} {ts : List Token} {trees : List AssertionTree} :
    Disjuncts declared room ts trees → ∀ tree ∈ trees, tree.Branching
  | .last conjunction =>
    List.forall_mem_singleton.mpr (branching_joined_and conjunction.ne_nil conjunction.branching)
  | .more conjunction rest =>
    List.forall_mem_cons.mpr
      ⟨branching_joined_and conjunction.ne_nil conjunction.branching, rest.branching⟩

end

theorem Disjunction.branching (statement : Disjunction declared room ts tree) :
    tree.Branching := by
  obtain ⟨trees, disjuncts, rfl⟩ := statement
  exact branching_joined_or disjuncts.ne_nil disjuncts.branching

theorem Statements.branching (statements : Statements declared ts trees) :
    ∀ tree ∈ trees, tree.Branching := by
  induction statements with
  | nil => simp
  | empty _ ih => exact ih
  | last statement => exact List.forall_mem_singleton.mpr statement.branching
  | cons statement _ ih => exact List.forall_mem_cons.mpr ⟨statement.branching, ih⟩

theorem Source.branching {spec : Specification} (source : Source ts spec) :
    spec.assertions.Branching := by
  cases source with
  | intro _ statements nonempty => exact branching_joined_and nonempty statements.branching

end Rules

end Attest
