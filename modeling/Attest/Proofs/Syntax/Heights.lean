import Attest.Proofs.Language.Heights
import Attest.Proofs.Syntax.Leaves
import Attest.Proofs.Syntax.Sources
/-!
# Heights of parsed trees

However long a source is, the tree that it is parsed as is shallow: what the limit on negations and
groups leaves room for, with a disjunction and a conjunction in each group.
-/

namespace Attest

open Rules

namespace AssertionTree

/-- Bounds on the weights of the nodes of a tree, where `level` covers what one negation or one
group may add to a branch. -/
structure Weighs (weight : AssertionTree → Nat) (leaf junction level : Nat) : Prop where
  leaf : ∀ a, weight (.leaf a) ≤ leaf
  and : ∀ children, weight (.and children) ≤ junction
  or : ∀ children, weight (.or children) ≤ junction
  not : ∀ child, weight (.not child) ≤ level
  group : 2 * junction ≤ level

theorem weighs_height : Weighs (fun _ => 1) 1 1 2 where
  leaf _ := Nat.le_refl _
  and _ := Nat.le_refl _
  or _ := Nat.le_refl _
  not _ := Nat.le_succ _
  group := Nat.le_refl _

theorem weighs_negations : Weighs ownNegations 0 0 1 where
  leaf _ := Nat.le_refl _
  and _ := Nat.le_refl _
  or _ := Nat.le_refl _
  not _ := Nat.le_refl _
  group := Nat.le_succ _

end AssertionTree

namespace Rules

variable {declared : List String} {weight : AssertionTree → Nat} {leaf junction level : Nat}

open AssertionTree

theorem heaviest_joined {join : List AssertionTree → AssertionTree} {trees : List AssertionTree}
    {bound : Nat}
    (joins : ∀ trees, (join trees).heaviest weight ≤ junction + heaviestOf weight trees)
    (each : ∀ tree ∈ trees, tree.heaviest weight ≤ bound) :
    (joined join trees).heaviest weight ≤ bound + junction := by
  unfold joined
  split
  · next tree =>
    have single := each tree List.mem_cons_self
    omega
  · have whole := joins trees
    have below := heaviestOf_le.mpr each
    omega

theorem heaviest_and (weighs : Weighs weight leaf junction level) (trees : List AssertionTree) :
    (AssertionTree.and trees).heaviest weight ≤ junction + heaviestOf weight trees := by
  rw [heaviest]
  exact Nat.add_le_add_right (weighs.and trees) _

theorem heaviest_or (weighs : Weighs weight leaf junction level) (trees : List AssertionTree) :
    (AssertionTree.or trees).heaviest weight ≤ junction + heaviestOf weight trees := by
  rw [heaviest]
  exact Nat.add_le_add_right (weighs.or trees) _

mutual

theorem Part.heaviest_le (weighs : Weighs weight leaf junction level) {room : Nat}
    {ts : List Token} {tree : AssertionTree} :
    Part declared room ts tree → tree.heaviest weight ≤ leaf + room * level
  | .leaf _ => Nat.le_trans (weighs.leaf _) (Nat.le_add_right _ _)
  | .not inner => by
    refine Nat.le_trans (Nat.add_le_add (weighs.not _) (inner.heaviest_le weighs)) ?_
    rw [Nat.succ_mul]
    omega
  | .group inner => by
    have below := heaviest_joined (heaviest_or weighs) (inner.heaviest_le weighs)
    have twice := weighs.group
    rw [Nat.succ_mul]
    omega

theorem Conjuncts.heaviest_le (weighs : Weighs weight leaf junction level) {room : Nat}
    {ts : List Token} {trees : List AssertionTree} :
    Conjuncts declared room ts trees →
      ∀ tree ∈ trees, tree.heaviest weight ≤ leaf + room * level
  | .last part => List.forall_mem_singleton.mpr (part.heaviest_le weighs)
  | .more part rest =>
    List.forall_mem_cons.mpr ⟨part.heaviest_le weighs, rest.heaviest_le weighs⟩

theorem Disjuncts.heaviest_le (weighs : Weighs weight leaf junction level) {room : Nat}
    {ts : List Token} {trees : List AssertionTree} :
    Disjuncts declared room ts trees →
      ∀ tree ∈ trees, tree.heaviest weight ≤ leaf + room * level + junction
  | .last conjunction => List.forall_mem_singleton.mpr
      (heaviest_joined (heaviest_and weighs) (conjunction.heaviest_le weighs))
  | .more conjunction rest => List.forall_mem_cons.mpr
      ⟨heaviest_joined (heaviest_and weighs) (conjunction.heaviest_le weighs),
        rest.heaviest_le weighs⟩

end

theorem Disjunction.heaviest_le (weighs : Weighs weight leaf junction level) {room : Nat}
    {ts : List Token} {tree : AssertionTree} (derived : Disjunction declared room ts tree) :
    tree.heaviest weight ≤ leaf + room * level + 2 * junction := by
  obtain ⟨trees, disjuncts, rfl⟩ := derived
  have whole := heaviest_joined (heaviest_or weighs) (disjuncts.heaviest_le weighs)
  omega

/-! ### Sources -/

theorem Statements.heaviest_le (weighs : Weighs weight leaf junction level) {ts : List Token}
    {trees : List AssertionTree} (derived : Statements declared ts trees) :
    ∀ tree ∈ trees, tree.heaviest weight ≤ leaf + maxNesting * level + 2 * junction := by
  induction derived with
  | nil => simp
  | empty _ ih => exact ih
  | last statement => exact List.forall_mem_singleton.mpr (statement.heaviest_le weighs)
  | cons statement _ ih => exact List.forall_mem_cons.mpr ⟨statement.heaviest_le weighs, ih⟩

theorem Source.heaviest_le (weighs : Weighs weight leaf junction level) {ts : List Token}
    {spec : Specification} (derived : Source ts spec) :
    spec.assertions.heaviest weight ≤ leaf + maxNesting * level + 3 * junction := by
  cases derived with
  | intro _ statements _ =>
    have whole := heaviest_joined (heaviest_and weighs) (statements.heaviest_le weighs)
    dsimp only
    omega

end Rules

open AssertionTree

/-- A parsed tree has several children in each conjunction and disjunction, at most `maxNesting`
negations on a branch and a bounded height, and no recursion over it goes deeper. -/
theorem Specification.assertions_shallow {source : String} {spec : Specification}
    (read : parse source = .ok spec) :
    let limit := 2 * (maxNesting + 1) + 2
    spec.assertions.Branching ∧ spec.assertions.negations ≤ maxNesting ∧
      spec.assertions.height ≤ limit ∧
      (∀ below, unrolled countStep below limit spec.assertions = spec.assertions.leafCount) ∧
      (∀ below, unrolled textStep below limit spec.assertions = spec.assertions.text) ∧
      ∀ leaf below, unrolled (evaluateStep leaf) below limit spec.assertions =
        spec.assertions.evaluate leaf := by
  intro limit
  have derived := source_of_ofLexemes read
  have negations : spec.assertions.negations ≤ maxNesting := by
    have bound := derived.heaviest_le weighs_negations
    rw [negations]
    omega
  have height : spec.assertions.height ≤ limit := by
    have bound := derived.heaviest_le weighs_height
    rw [height]
    omega
  exact ⟨derived.branching, negations, height,
    fun below => recursion_leafCount.unrolled_eq below height,
    fun below => recursion_text.unrolled_eq below height,
    fun leaf below => recursion_evaluate.unrolled_eq below height⟩

/-- Two statements, with a negation in a conjunction in a disjunction under a negation. -/
theorem Specification.assertions_shallow_nested :
    ∃ spec : Specification,
      parse "not (exists(a) or not exists(b) and exists(c)); exists(d)" = .ok spec ∧
        spec.assertions.height = 6 ∧ spec.assertions.negations = 2 ∧
        6 ≤ 2 * (maxNesting + 1) + 2 ∧
        ∀ below, unrolled countStep below (2 * (maxNesting + 1) + 2) spec.assertions = 4 := by
  have read : (parse "not (exists(a) or not exists(b) and exists(c)); exists(d)").toOption.map
      (fun spec => (spec.assertions.height, spec.assertions.negations, spec.assertions.leafCount)) =
      some (6, 2, 4) := by decide +kernel
  cases parsed : parse "not (exists(a) or not exists(b) and exists(c)); exists(d)" with
  | error errors =>
    rw [parsed] at read
    cases read
  | ok spec =>
    rw [parsed] at read
    obtain ⟨height, negations, leaves⟩ : spec.assertions.height = 6 ∧
        spec.assertions.negations = 2 ∧ spec.assertions.leafCount = 4 := by
      simpa [Except.toOption] using read
    obtain ⟨_, _, bound, counts, _⟩ := assertions_shallow parsed
    exact ⟨spec, rfl, height, negations, height ▸ bound, fun below => (counts below).trans leaves⟩

end Attest
