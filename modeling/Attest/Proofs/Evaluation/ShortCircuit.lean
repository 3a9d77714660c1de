import Attest.Proofs.Evaluation.Children
import Attest.Proofs.Language.Trees
import Mathlib.Data.List.Basic
/-!
# Evaluation that goes no further than needed

Which leaves an evaluation from the left reaches, and what its result says about the truth of the
tree. Leaves are numbered from the left, so that equal assertions at different places differ.
-/

namespace Attest

namespace AssertionTree

/-! ### Truth -/

mutual

/-- The truth of a tree whose leaves have the truth `value`. -/
def truth (value : Nat → Bool) : AssertionTree → Bool
  | .leaf _ => value 0
  | .and children => truthEach (· && ·) true value children
  | .or children => truthEach (· || ·) false value children
  | .not child => !truth value child

/-- The truth of children that are joined; without any it is `unit`. -/
def truthEach (join : Bool → Bool → Bool) (unit : Bool) (value : Nat → Bool) :
    List AssertionTree → Bool
  | [] => unit
  | child :: rest =>
    join (truth value child) (truthEach join unit (fun i => value (child.leafCount + i)) rest)

end

section

variable (leaf : Assertion → Except AssertionError Bool)

/-- The truth of leaves is that of their evaluation, where it completes. -/
def Agrees (leaves : List Assertion) (value : Nat → Bool) : Prop :=
  ∀ i a b, leaves[i]? = some a → leaf a = .ok b → value i = b

/-! ### Reached leaves -/

mutual

/-- Evaluation from the left, no further than the truth needs: the leaves that it reaches, in
order, and its result. -/
inductive Reaches : AssertionTree → List Nat → Except AssertionError Bool → Prop
  | leaf (a : Assertion) : Reaches (.leaf a) [0] (leaf a)
  | and {children : List AssertionTree} {reached : List Nat} {result : Except AssertionError Bool}
      (each : ReachesEach true children reached result) : Reaches (.and children) reached result
  | or {children : List AssertionTree} {reached : List Nat} {result : Except AssertionError Bool}
      (each : ReachesEach false children reached result) : Reaches (.or children) reached result
  | not {child : AssertionTree} {reached : List Nat} {result : Except AssertionError Bool}
      (inner : Reaches child reached result) : Reaches (.not child) reached (result.map Bool.not)

/-- Evaluation of children as long as each is `unit`. -/
inductive ReachesEach :
    Bool → List AssertionTree → List Nat → Except AssertionError Bool → Prop
  | nil (unit : Bool) : ReachesEach unit [] [] (.ok unit)
  | next {unit : Bool} {child : AssertionTree} {rest : List AssertionTree} {reached more : List Nat}
      {result : Except AssertionError Bool} (first : Reaches child reached (.ok unit))
      (later : ReachesEach unit rest more result) :
      ReachesEach unit (child :: rest) (reached ++ more.map (child.leafCount + ·)) result
  | stop {unit : Bool} {child : AssertionTree} {rest : List AssertionTree} {reached : List Nat}
      {result : Except AssertionError Bool} (first : Reaches child reached result)
      (ends : result ≠ .ok unit) : ReachesEach unit (child :: rest) reached result

end

/-- The evaluation of a leaf completes. -/
def Settled (leaves : List Assertion) (i : Nat) : Prop :=
  ∃ a b, leaves[i]? = some a ∧ leaf a = .ok b

/-- The leaf `last` fails, after others that complete. -/
structure FailsAt (leaves : List Assertion) (before : List Nat) (last : Nat)
    (error : AssertionError) : Prop where
  failing : ∃ a, leaves[last]? = some a ∧ leaf a = .error error
  settled : ∀ i ∈ before, i < last ∧ Settled leaf leaves i

/-- Two evaluations of leaves are the same at those reached. -/
def SameAt (other : Assertion → Except AssertionError Bool) (leaves : List Assertion)
    (reached : List Nat) : Prop :=
  ∀ i ∈ reached, ∀ a, leaves[i]? = some a → other a = leaf a

/-- A leaf whose evaluation completes, with its truth. -/
def completed? (leaves : List Assertion) (i : Nat) : Option (Assertion × Bool) :=
  leaves[i]?.bind fun a => (leaf a).toOption.map fun value => (a, value)

end

section

variable {leaf : Assertion → Except AssertionError Bool} {leaves later : List Assertion}
  {children : List AssertionTree} {unit : Bool} {reached : List Nat}
  {result : Except AssertionError Bool} {error : AssertionError}

/-! ### Leaves of the first child and of the others -/

theorem getElem?_leaves_left {i : Nat} {a : Assertion} (here : leaves[i]? = some a) :
    (leaves ++ later)[i]? = some a := by
  have inside := (List.getElem?_eq_some_iff.mp here).1
  rw [List.getElem?_append_left inside, here]

theorem getElem?_leaves_right (child : AssertionTree) (i : Nat) :
    (child.leaves ++ later)[child.leafCount + i]? = later[i]? := by
  rw [← length_leaves, List.getElem?_append_right (Nat.le_add_right _ _), Nat.add_sub_cancel_left]

theorem Agrees.split {child : AssertionTree} {value : Nat → Bool}
    (agrees : Agrees leaf (child.leaves ++ later) value) :
    Agrees leaf child.leaves value ∧ Agrees leaf later fun i => value (child.leafCount + i) := by
  constructor
  · intro i a b here completes
    exact agrees i a b (getElem?_leaves_left here) completes
  · intro i a b here completes
    exact agrees _ a b ((getElem?_leaves_right child i).trans here) completes

theorem Settled.append_left {i : Nat} (settled : Settled leaf leaves i) :
    Settled leaf (leaves ++ later) i := by
  obtain ⟨a, b, here, completes⟩ := settled
  exact ⟨a, b, getElem?_leaves_left here, completes⟩

theorem Settled.append_right {child : AssertionTree} {i : Nat} (settled : Settled leaf later i) :
    Settled leaf (child.leaves ++ later) (child.leafCount + i) := by
  obtain ⟨a, b, here, completes⟩ := settled
  exact ⟨a, b, (getElem?_leaves_right child i).trans here, completes⟩

/-! ### Bounds -/

theorem lt_of_reachesEach
    (each : ∀ child ∈ children, ∀ reached result, Reaches leaf child reached result →
      ∀ i ∈ reached, i < child.leafCount)
    (reaches : ReachesEach leaf unit children reached result) :
    ∀ i ∈ reached, i < leafCounts children := by
  induction children generalizing reached with
  | nil =>
    cases reaches
    simp
  | cons child rest ih =>
    obtain ⟨first, later⟩ := List.forall_mem_cons.mp each
    intro i member
    rw [leafCounts]
    cases reaches with
    | next here others =>
      rcases List.mem_append.mp member with inside | outside
      · have less := first _ _ here i inside
        omega
      · obtain ⟨j, inside, rfl⟩ := List.mem_map.mp outside
        have less := ih later others j inside
        omega
    | stop here _ =>
      have less := first _ _ here i member
      omega

theorem Reaches.lt {tree : AssertionTree} (reaches : Reaches leaf tree reached result) :
    ∀ i ∈ reached, i < tree.leafCount := by
  induction tree generalizing reached result with
  | leaf a =>
    cases reaches
    simp [leafCount]
  | and children ih =>
    cases reaches with
    | and each => exact lt_of_reachesEach ih each
  | or children ih =>
    cases reaches with
    | or each => exact lt_of_reachesEach ih each
  | not child ih =>
    cases reaches with
    | not inner => exact ih inner

theorem ordered_of_reachesEach
    (each : ∀ child ∈ children, ∀ reached result, Reaches leaf child reached result →
      reached.Pairwise (· < ·))
    (reaches : ReachesEach leaf unit children reached result) : reached.Pairwise (· < ·) := by
  induction children generalizing reached with
  | nil =>
    cases reaches
    exact List.Pairwise.nil
  | cons child rest ih =>
    obtain ⟨first, later⟩ := List.forall_mem_cons.mp each
    cases reaches with
    | next here others =>
      have shifted := ih later others
      rw [List.pairwise_append, List.pairwise_map]
      refine ⟨first _ _ here, shifted.imp fun less => by omega, ?_⟩
      intro i inside j outside
      obtain ⟨k, _, rfl⟩ := List.mem_map.mp outside
      have less := here.lt i inside
      omega
    | stop here _ => exact first _ _ here

/-- Leaves are reached from the left, each at most once. -/
theorem Reaches.ordered {tree : AssertionTree} (reaches : Reaches leaf tree reached result) :
    reached.Pairwise (· < ·) := by
  induction tree generalizing reached result with
  | leaf a =>
    cases reaches
    exact List.pairwise_singleton _ _
  | and children ih =>
    cases reaches with
    | and each => exact ordered_of_reachesEach ih each
  | or children ih =>
    cases reaches with
    | or each => exact ordered_of_reachesEach ih each
  | not child ih =>
    cases reaches with
    | not inner => exact ih inner

/-! ### Results -/

theorem truthEach_of_reaches {join : Bool → Bool → Bool} {value : Nat → Bool} {b : Bool}
    (goes : ∀ x, join unit x = x) (stops : ∀ x y, x ≠ unit → join x y = x)
    (each : ∀ child ∈ children, ∀ reached value b, Reaches leaf child reached (.ok b) →
      Agrees leaf child.leaves value → child.truth value = b)
    (reaches : ReachesEach leaf unit children reached (.ok b))
    (agrees : Agrees leaf (leavesOf children) value) : truthEach join unit value children = b := by
  induction children generalizing reached value with
  | nil =>
    cases reaches
    rfl
  | cons child rest ih =>
    obtain ⟨first, later⟩ := List.forall_mem_cons.mp each
    obtain ⟨here, others⟩ := agrees.split
    rw [truthEach]
    cases reaches with
    | next holds more =>
      rw [first _ _ _ holds here, goes]
      exact ih later more others
    | stop ends different =>
      rw [first _ _ _ ends here]
      exact stops b _ fun same => different (congrArg Except.ok same)

/-- A result is the truth of the tree, whatever the truth of the leaves that did not complete. -/
theorem Reaches.truth {tree : AssertionTree} {value : Nat → Bool} {b : Bool}
    (reaches : Reaches leaf tree reached (.ok b)) (agrees : Agrees leaf tree.leaves value) :
    tree.truth value = b := by
  induction tree generalizing reached value b with
  | leaf a =>
    generalize same : Except.ok b = result at reaches
    cases reaches
    exact agrees 0 a b rfl same.symm
  | and children ih =>
    cases reaches with
    | and each => exact truthEach_of_reaches (by decide) (by decide) ih each agrees
  | or children ih =>
    cases reaches with
    | or each => exact truthEach_of_reaches (by decide) (by decide) ih each agrees
  | not child ih =>
    generalize same : Except.ok b = result at reaches
    cases reaches with
    | @not _ _ inner reaches =>
      cases inner with
      | error e => cases same
      | ok c =>
        cases same
        exact congrArg Bool.not (ih reaches agrees)

theorem settled_of_reachesEach {b : Bool}
    (each : ∀ child ∈ children, ∀ reached b, Reaches leaf child reached (.ok b) →
      ∀ i ∈ reached, Settled leaf child.leaves i)
    (reaches : ReachesEach leaf unit children reached (.ok b)) :
    ∀ i ∈ reached, Settled leaf (leavesOf children) i := by
  induction children generalizing reached with
  | nil =>
    cases reaches
    simp
  | cons child rest ih =>
    obtain ⟨first, later⟩ := List.forall_mem_cons.mp each
    intro i member
    cases reaches with
    | next here others =>
      rcases List.mem_append.mp member with inside | outside
      · exact (first _ _ here i inside).append_left
      · obtain ⟨j, inside, rfl⟩ := List.mem_map.mp outside
        exact (ih later others j inside).append_right
    | stop here _ => exact (first _ _ here i member).append_left

theorem Reaches.settled {tree : AssertionTree} {b : Bool}
    (reaches : Reaches leaf tree reached (.ok b)) : ∀ i ∈ reached, Settled leaf tree.leaves i := by
  induction tree generalizing reached b with
  | leaf a =>
    generalize same : Except.ok b = result at reaches
    cases reaches
    intro i member
    rw [List.mem_singleton.mp member]
    exact ⟨a, b, rfl, same.symm⟩
  | and children ih =>
    cases reaches with
    | and each => exact settled_of_reachesEach ih each
  | or children ih =>
    cases reaches with
    | or each => exact settled_of_reachesEach ih each
  | not child ih =>
    generalize same : Except.ok b = result at reaches
    cases reaches with
    | @not _ _ inner reaches =>
      cases inner with
      | error e => cases same
      | ok c => exact ih reaches

theorem FailsAt.append_left {before : List Nat} {last : Nat}
    (fails : FailsAt leaf leaves before last error) :
    FailsAt leaf (leaves ++ later) before last error where
  failing := by
    obtain ⟨a, here, failed⟩ := fails.failing
    exact ⟨a, getElem?_leaves_left here, failed⟩
  settled := fun i member => (fails.settled i member).imp_right Settled.append_left

theorem FailsAt.after {child : AssertionTree} {before : List Nat} {last : Nat} {b : Bool}
    (first : Reaches leaf child reached (.ok b)) (fails : FailsAt leaf later before last error) :
    FailsAt leaf (child.leaves ++ later) (reached ++ before.map (child.leafCount + ·))
      (child.leafCount + last) error where
  failing := by
    obtain ⟨a, here, failed⟩ := fails.failing
    exact ⟨a, (getElem?_leaves_right child last).trans here, failed⟩
  settled := by
    intro i member
    rcases List.mem_append.mp member with inside | outside
    · have less := first.lt i inside
      exact ⟨by omega, (first.settled i inside).append_left⟩
    · obtain ⟨j, inside, rfl⟩ := List.mem_map.mp outside
      obtain ⟨less, settled⟩ := fails.settled j inside
      exact ⟨by omega, settled.append_right⟩

theorem fails_of_reachesEach
    (each : ∀ child ∈ children, ∀ reached, Reaches leaf child reached (.error error) →
      ∃ before last, reached = before ++ [last] ∧ FailsAt leaf child.leaves before last error)
    (reaches : ReachesEach leaf unit children reached (.error error)) :
    ∃ before last, reached = before ++ [last] ∧
      FailsAt leaf (leavesOf children) before last error := by
  induction children generalizing reached with
  | nil => cases reaches
  | cons child rest ih =>
    obtain ⟨first, later⟩ := List.forall_mem_cons.mp each
    cases reaches with
    | @next _ _ _ reached more _ here others =>
      obtain ⟨before, last, rfl, fails⟩ := ih later others
      exact ⟨reached ++ before.map (child.leafCount + ·), child.leafCount + last, by simp,
        .after here fails⟩
    | stop here _ =>
      obtain ⟨before, last, same, fails⟩ := first _ here
      exact ⟨before, last, same, fails.append_left⟩

theorem Reaches.fails {tree : AssertionTree} (reaches : Reaches leaf tree reached (.error error)) :
    ∃ before last, reached = before ++ [last] ∧ FailsAt leaf tree.leaves before last error := by
  induction tree generalizing reached with
  | leaf a =>
    generalize failed : Except.error error = result at reaches
    cases reaches
    refine ⟨[], 0, rfl, ⟨a, rfl, failed.symm⟩, by simp⟩
  | and children ih =>
    cases reaches with
    | and each => exact fails_of_reachesEach ih each
  | or children ih =>
    cases reaches with
    | or each => exact fails_of_reachesEach ih each
  | not child ih =>
    generalize failed : Except.error error = result at reaches
    cases reaches with
    | @not _ _ inner reaches =>
      cases inner with
      | ok c => cases failed
      | error e =>
        cases failed
        exact ih reaches

theorem unique_of_reachesEach {others : List Nat} {other : Except AssertionError Bool}
    (each : ∀ child ∈ children, ∀ reached result others other, Reaches leaf child reached result →
      Reaches leaf child others other → reached = others ∧ result = other)
    (first : ReachesEach leaf unit children reached result)
    (second : ReachesEach leaf unit children others other) : reached = others ∧ result = other := by
  induction children generalizing reached others with
  | nil =>
    cases first
    cases second
    exact ⟨rfl, rfl⟩
  | cons child rest ih =>
    obtain ⟨here, later⟩ := List.forall_mem_cons.mp each
    cases first with
    | next holds more =>
      cases second with
      | next holds' more' =>
        obtain ⟨rfl, _⟩ := here _ _ _ _ holds holds'
        obtain ⟨rfl, same⟩ := ih later more more'
        exact ⟨rfl, same⟩
      | stop ends different => exact absurd (here _ _ _ _ holds ends).2.symm different
    | stop ends different =>
      cases second with
      | next holds _ => exact absurd (here _ _ _ _ ends holds).2 different
      | stop ends' _ => exact here _ _ _ _ ends ends'

theorem Reaches.unique {tree : AssertionTree} {others : List Nat}
    {other : Except AssertionError Bool} (first : Reaches leaf tree reached result)
    (second : Reaches leaf tree others other) :
    reached = others ∧ result = other := by
  induction tree generalizing reached others result other with
  | leaf a =>
    cases first
    cases second
    exact ⟨rfl, rfl⟩
  | and children ih =>
    cases first with
    | and each =>
      cases second with
      | and each' => exact unique_of_reachesEach ih each each'
  | or children ih =>
    cases first with
    | or each =>
      cases second with
      | or each' => exact unique_of_reachesEach ih each each'
  | not child ih =>
    cases first with
    | not inner =>
      cases second with
      | not inner' =>
        obtain ⟨rfl, rfl⟩ := ih inner inner'
        exact ⟨rfl, rfl⟩

/-! ### Leaves that are not reached -/

theorem congr_reachesEach {other : Assertion → Except AssertionError Bool}
    (each : ∀ child ∈ children, ∀ reached result, Reaches leaf child reached result →
      SameAt leaf other child.leaves reached → Reaches other child reached result)
    (reaches : ReachesEach leaf unit children reached result)
    (same : SameAt leaf other (leavesOf children) reached) :
    ReachesEach other unit children reached result := by
  induction children generalizing reached with
  | nil =>
    cases reaches
    exact .nil unit
  | cons child rest ih =>
    obtain ⟨first, later⟩ := List.forall_mem_cons.mp each
    cases reaches with
    | next here more =>
      refine .next (first _ _ here ?_) (ih later more ?_)
      · intro i member a place
        exact same i (List.mem_append_left _ member) a (getElem?_leaves_left place)
      · intro i member a place
        have after := (getElem?_leaves_right child i).trans place
        exact same _ (List.mem_append_right _ (List.mem_map_of_mem member)) a after
    | stop here differs =>
      refine .stop (first _ _ here ?_) differs
      intro i member a place
      exact same i member a (getElem?_leaves_left place)

theorem Reaches.congr {tree : AssertionTree} {other : Assertion → Except AssertionError Bool}
    (reaches : Reaches leaf tree reached result) (same : SameAt leaf other tree.leaves reached) :
    Reaches other tree reached result := by
  induction tree generalizing reached result with
  | leaf a =>
    cases reaches
    have here : other a = leaf a := same 0 (List.mem_singleton_self 0) a rfl
    rw [← here]
    exact .leaf a
  | and children ih =>
    cases reaches with
    | and each => exact .and (congr_reachesEach ih each same)
  | or children ih =>
    cases reaches with
    | or each => exact .or (congr_reachesEach ih each same)
  | not child ih =>
    cases reaches with
    | not inner => exact .not (ih inner same)

/-! ### Evaluation -/

theorem completed?_append_left {i : Nat} (inside : i < leaves.length) :
    completed? leaf (leaves ++ later) i = completed? leaf leaves i := by
  rw [completed?, completed?, List.getElem?_append_left inside]

theorem completed?_append_right (child : AssertionTree) (i : Nat) :
    completed? leaf (child.leaves ++ later) (child.leafCount + i) = completed? leaf later i := by
  rw [completed?, completed?, getElem?_leaves_right]

theorem filterMap_completed? {child : AssertionTree} (reaches : Reaches leaf child reached result) :
    reached.filterMap (completed? leaf (child.leaves ++ later)) =
      reached.filterMap (completed? leaf child.leaves) := by
  refine List.filterMap_congr fun i member => completed?_append_left ?_
  rw [length_leaves]
  exact reaches.lt i member

theorem EvaluatesWhile.reaches {each : List AssertionTree → Outcome}
    (evaluates : EvaluatesWhile leaf unit each)
    (inner : ∀ child ∈ children, ∃ reached,
      Reaches leaf child reached (child.evaluate leaf).result ∧
        (child.evaluate leaf).completed = reached.filterMap (completed? leaf child.leaves)) :
    ∃ reached, ReachesEach leaf unit children reached (each children).result ∧
      (each children).completed = reached.filterMap (completed? leaf (leavesOf children)) := by
  induction children with
  | nil =>
    rw [evaluates.nil]
    exact ⟨[], .nil unit, rfl⟩
  | cons child rest ih =>
    obtain ⟨first, others⟩ := List.forall_mem_cons.mp inner
    obtain ⟨reached, reaches, completed⟩ := first
    by_cases holds : (child.evaluate leaf).result = .ok unit
    · obtain ⟨more, later, rest⟩ := ih others
      rw [evaluates.goes _ _ holds]
      rw [holds] at reaches
      refine ⟨reached ++ more.map (child.leafCount + ·), .next reaches later, ?_⟩
      rw [leavesOf, List.filterMap_append, List.filterMap_map, filterMap_completed? reaches,
        ← completed, Outcome.before, rest]
      refine congrArg _ (List.filterMap_congr fun i _ => ?_)
      exact (completed?_append_right child i).symm
    · rw [evaluates.stops _ _ holds]
      refine ⟨reached, .stop reaches holds, ?_⟩
      rw [leavesOf, filterMap_completed? reaches, completed]

/-- An evaluation reaches the leaves that it should, and records those that complete. -/
theorem evaluate_reaches (leaf : Assertion → Except AssertionError Bool) (tree : AssertionTree) :
    ∃ reached, Reaches leaf tree reached (tree.evaluate leaf).result ∧
      (tree.evaluate leaf).completed = reached.filterMap (completed? leaf tree.leaves) := by
  induction tree with
  | leaf a =>
    refine ⟨[0], .leaf a, ?_⟩
    cases result : leaf a <;>
      simp [evaluate, Outcome.ofLeaf, completed?, leaves, result, Except.toOption]
  | and children ih =>
    obtain ⟨reached, each, completed⟩ := evaluateAll_while.reaches ih
    exact ⟨reached, .and each, completed⟩
  | or children ih =>
    obtain ⟨reached, each, completed⟩ := evaluateAny_while.reaches ih
    exact ⟨reached, .or each, completed⟩
  | not child ih =>
    obtain ⟨reached, reaches, completed⟩ := ih
    exact ⟨reached, .not reaches, completed⟩

/-- An evaluation asks for no leaf but those that it reaches. -/
theorem evaluate_congr {tree : AssertionTree} {other : Assertion → Except AssertionError Bool}
    (reaches : Reaches leaf tree reached result) (same : SameAt leaf other tree.leaves reached) :
    tree.evaluate other = tree.evaluate leaf := by
  obtain ⟨others, second, completed⟩ := evaluate_reaches other tree
  obtain ⟨reached', first, completed'⟩ := evaluate_reaches leaf tree
  obtain ⟨rfl, rfl⟩ := first.unique reaches
  obtain ⟨rfl, result⟩ := second.unique (reaches.congr same)
  have records : (tree.evaluate other).completed = (tree.evaluate leaf).completed := by
    rw [completed, completed']
    refine List.filterMap_congr fun i member => ?_
    unfold completed?
    cases place : tree.leaves[i]? with
    | none => rfl
    | some a => rw [Option.bind_some, Option.bind_some, same i member a place]
  exact congrArg₂ Outcome.mk result records

end

end AssertionTree

namespace Scope

open AssertionTree

/-- A result is the truth of the tree for every truth of the leaves that do not complete. An error
is that of the last leaf reached, the first that fails, and no other leaf has a part in it. -/
theorem evaluate_shortCircuit (s : Scope) (tree : AssertionTree) :
    (∀ b, (s.evaluate tree).result = .ok b →
      ∀ value, Agrees s.leaf tree.leaves value → tree.truth value = b) ∧
    ∀ error, (s.evaluate tree).result = .error error →
      ∃ before last,
        (∀ reached result, Reaches s.leaf tree reached result ↔
          reached = before ++ [last] ∧ result = .error error) ∧
        FailsAt s.leaf tree.leaves before last error ∧
        (s.evaluate tree).completed = before.filterMap (completed? s.leaf tree.leaves) ∧
        ∀ other, SameAt s.leaf other tree.leaves (before ++ [last]) →
          tree.evaluate other = s.evaluate tree := by
  obtain ⟨reached, reaches, completed⟩ := evaluate_reaches s.leaf tree
  unfold Scope.evaluate
  constructor
  · intro b completes value agrees
    rw [completes] at reaches
    exact reaches.truth agrees
  · intro error failed
    rw [failed] at reaches
    obtain ⟨before, last, rfl, fails⟩ := reaches.fails
    refine ⟨before, last, ?_, fails, ?_, fun _ => evaluate_congr reaches⟩
    · intro others other
      constructor
      · intro second
        exact second.unique reaches
      · rintro ⟨rfl, rfl⟩
        exact reaches
    · obtain ⟨a, here, failing⟩ := fails.failing
      have incomplete : completed? s.leaf tree.leaves last = none := by
        simp [completed?, here, failing, Except.toOption]
      rw [completed, List.filterMap_append]
      simp [incomplete]

end Scope

end Attest
