import Attest.Evaluation.Evaluate
import Attest.Proofs.Language.Trees
/-!
# Heights of trees

How much a branch of a tree weighs, and how deep the recursions over a tree go: no deeper than the
tree is high, whatever stands for the results of deeper calls.
-/

namespace Attest

namespace AssertionTree

/-! ### Branches -/

def children : AssertionTree → List AssertionTree
  | .leaf _ => []
  | .and children | .or children => children
  | .not child => [child]

mutual

/-- The weight of the heaviest branch, where each node on a branch has a weight. -/
def heaviest (weight : AssertionTree → Nat) : AssertionTree → Nat
  | .leaf a => weight (.leaf a)
  | .and children => weight (.and children) + heaviestOf weight children
  | .or children => weight (.or children) + heaviestOf weight children
  | .not child => weight (.not child) + heaviest weight child

def heaviestOf (weight : AssertionTree → Nat) : List AssertionTree → Nat
  | [] => 0
  | child :: rest => max (heaviest weight child) (heaviestOf weight rest)

end

/-- The number of nodes on the longest branch. -/
def height (tree : AssertionTree) : Nat :=
  tree.heaviest fun _ => 1

/-- One for a negation. -/
def ownNegations : AssertionTree → Nat
  | .not _ => 1
  | _ => 0

/-- The number of negations on the branch with the most of them. -/
def negations (tree : AssertionTree) : Nat :=
  tree.heaviest ownNegations

section

variable {weight : AssertionTree → Nat} {bound : Nat} {tree child : AssertionTree}

theorem heaviestOf_le {children : List AssertionTree} :
    heaviestOf weight children ≤ bound ↔ ∀ child ∈ children, child.heaviest weight ≤ bound := by
  induction children with
  | nil => simp [heaviestOf]
  | cons first rest ih => rw [heaviestOf, Nat.max_le, ih, List.forall_mem_cons]

theorem heaviest_of_child (member : child ∈ tree.children) :
    weight tree + child.heaviest weight ≤ tree.heaviest weight := by
  cases tree with
  | leaf a => cases member
  | and children | or children =>
    rw [heaviest]
    exact Nat.add_le_add_left (heaviestOf_le.mp (Nat.le_refl _) child member) _
  | not inner =>
    rw [List.mem_singleton.mp member]
    exact Nat.le_refl _

end

theorem height_pos (tree : AssertionTree) : 0 < tree.height := by
  cases tree with
  | leaf a => exact Nat.one_pos
  | and children | or children | not child =>
    rw [height, heaviest]
    omega

theorem height_of_child {tree child : AssertionTree} (member : child ∈ tree.children) :
    child.height < tree.height := by
  have below := @heaviest_of_child (fun _ => 1) tree child member
  rw [height, height]
  omega

/-! ### Recursions -/

/-- Some levels of a recursion over trees. Calls below them are answered by `below`. -/
def unrolled {β : Type} (step : (AssertionTree → β) → AssertionTree → β)
    (below : AssertionTree → β) : Nat → AssertionTree → β
  | 0 => below
  | levels + 1 => step (unrolled step below levels)

/-- The function calls itself in `step`, and on the children of a tree alone. -/
structure Recursion {β : Type} (step : (AssertionTree → β) → AssertionTree → β)
    (f : AssertionTree → β) : Prop where
  unfolds : ∀ tree, f tree = step f tree
  onChildren : ∀ g tree, (∀ child ∈ tree.children, g child = f child) → step g tree = step f tree

/-- A recursion over a tree goes no deeper than the tree is high. -/
theorem Recursion.unrolled_eq {β : Type} {step : (AssertionTree → β) → AssertionTree → β}
    {f : AssertionTree → β} (recursion : Recursion step f) (below : AssertionTree → β)
    {levels : Nat} {tree : AssertionTree} (enough : tree.height ≤ levels) :
    unrolled step below levels tree = f tree := by
  induction levels generalizing tree with
  | zero =>
    have positive := tree.height_pos
    omega
  | succ levels ih =>
    rw [unrolled, recursion.unfolds tree]
    refine recursion.onChildren _ tree fun child member => ih ?_
    have lower := height_of_child member
    omega

/-- One level of counting leaves. -/
def countStep (count : AssertionTree → Nat) : AssertionTree → Nat
  | .leaf _ => 1
  | .and children | .or children => (children.map count).foldr (· + ·) 0
  | .not child => count child

theorem leafCounts_eq (children : List AssertionTree) :
    leafCounts children = (children.map leafCount).foldr (· + ·) 0 := by
  induction children with
  | nil => rfl
  | cons child rest ih => rw [leafCounts, ih, List.map_cons, List.foldr_cons]

theorem recursion_leafCount : Recursion countStep leafCount where
  unfolds tree := by
    cases tree with
    | leaf a => rfl
    | and children | or children => exact leafCounts_eq children
    | not child => rfl
  onChildren g tree same := by
    cases tree with
    | leaf a => rfl
    | and children | or children =>
      exact congrArg (List.foldr (· + ·) 0) (List.map_congr_left same)
    | not child => exact same child List.mem_cons_self

/-- The text of a child, given that of trees. -/
def innerText (write : AssertionTree → String) (child : AssertionTree) : String :=
  if child.followsNot then write child else "(" ++ write child ++ ")"

/-- Texts with a separator between them. -/
def separated (separator : String) : List String → String
  | [] => ""
  | [text] => text
  | text :: next :: rest => text ++ separator ++ separated separator (next :: rest)

/-- One level of writing a tree. -/
def textStep (write : AssertionTree → String) : AssertionTree → String
  | .leaf a => a.text
  | .and children => separated " and " (children.map (innerText write))
  | .or children => separated " or " (children.map (innerText write))
  | .not child =>
    if child.followsNot then "not " ++ write child else "not (" ++ write child ++ ")"

theorem joinedText_eq (separator : String) (children : List AssertionTree) :
    joinedText separator children = separated separator (children.map (innerText text)) := by
  match children with
  | [] => rw [joinedText, List.map_nil, separated]
  | [child] => rw [joinedText, List.map_singleton, separated, innerText]
  | child :: next :: rest =>
    rw [joinedText, joinedText_eq separator (next :: rest)]
    rfl

theorem innerText_congr {write write' : AssertionTree → String} {child : AssertionTree}
    (same : write child = write' child) : innerText write child = innerText write' child := by
  rw [innerText, innerText, same]

theorem recursion_text : Recursion textStep text where
  unfolds tree := by
    cases tree with
    | leaf a => rw [text, textStep]
    | and children => rw [text, textStep, joinedText_eq]
    | or children => rw [text, textStep, joinedText_eq]
    | not child => rw [text, textStep]
  onChildren g tree same := by
    cases tree with
    | leaf a => rfl
    | and children =>
      exact congrArg (separated " and ")
        (List.map_congr_left fun child member => innerText_congr (same child member))
    | or children =>
      exact congrArg (separated " or ")
        (List.map_congr_left fun child member => innerText_congr (same child member))
    | not child => rw [textStep, textStep, same child List.mem_cons_self]

/-- The outcome of children, evaluated as long as each is `unit`. -/
def whileEach (evaluate : AssertionTree → Outcome) (unit : Bool) : List AssertionTree → Outcome
  | [] => ⟨.ok unit, []⟩
  | child :: rest =>
    let first := evaluate child
    match first.result with
    | .ok value => if value = unit then first.before (whileEach evaluate unit rest) else first
    | .error _ => first

/-- One level of evaluating a tree. -/
def evaluateStep (leaf : Assertion → Except AssertionError Bool)
    (evaluate : AssertionTree → Outcome) : AssertionTree → Outcome
  | .leaf a => .ofLeaf a (leaf a)
  | .and children => whileEach evaluate true children
  | .or children => whileEach evaluate false children
  | .not child => (evaluate child).not

theorem whileEach_congr {evaluate evaluate' : AssertionTree → Outcome} {unit : Bool}
    {children : List AssertionTree}
    (same : ∀ child ∈ children, evaluate child = evaluate' child) :
    whileEach evaluate unit children = whileEach evaluate' unit children := by
  induction children with
  | nil => rfl
  | cons child rest ih =>
    obtain ⟨first, later⟩ := List.forall_mem_cons.mp same
    rw [whileEach, whileEach, first, ih later]

variable {leaf : Assertion → Except AssertionError Bool}

theorem evaluateAll_eq (children : List AssertionTree) :
    evaluateAll leaf children = whileEach (evaluate leaf) true children := by
  induction children with
  | nil => rfl
  | cons child rest ih =>
    rw [evaluateAll, whileEach, ih]
    rcases (child.evaluate leaf).result with error | value
    · rfl
    · cases value <;> rfl

theorem evaluateAny_eq (children : List AssertionTree) :
    evaluateAny leaf children = whileEach (evaluate leaf) false children := by
  induction children with
  | nil => rfl
  | cons child rest ih =>
    rw [evaluateAny, whileEach, ih]
    rcases (child.evaluate leaf).result with error | value
    · rfl
    · cases value <;> rfl

theorem recursion_evaluate : Recursion (evaluateStep leaf) (evaluate leaf) where
  unfolds tree := by
    cases tree with
    | leaf a => rw [evaluate, evaluateStep]
    | and children => rw [evaluate, evaluateStep, evaluateAll_eq]
    | or children => rw [evaluate, evaluateStep, evaluateAny_eq]
    | not child => rw [evaluate, evaluateStep]
  onChildren g tree same := by
    cases tree with
    | leaf a => rfl
    | and children | or children => exact whileEach_congr same
    | not child => rw [evaluateStep, evaluateStep, same child List.mem_cons_self]

end AssertionTree

end Attest
