import Attest.Proofs.Language.Trees
import Attest.Proofs.Syntax.Chains
/-!
# Written tokens

The tokens that stand for a tree in its text. The rules derive the tree from them, as long as each
conjunction and each disjunction has several children and the tree does not nest too deep. Where
names are declared, they derive the tree with other operands.
-/

namespace Attest

/-! ### Tokens of a text -/

namespace Step

/-- The tokens of a step that begins a path. -/
def tokens : Step → List Token
  | .field name =>
    if isPlainName name then [.identifier name] else [.leftBracket, .string name, .rightBracket]
  | .index position => [.leftBracket, .integer position, .rightBracket]
  | .wildcard => [.leftBracket, .star, .rightBracket]

/-- The tokens of a step that follows others. -/
def tailTokens (step : Step) : List Token :=
  match step with
  | .field name => if isPlainName name then [.dot, .identifier name] else step.tokens
  | _ => step.tokens

end Step

namespace Path

def tailTokens (steps : Path) : List Token :=
  steps.flatMap Step.tailTokens

def tokens : Path → List Token
  | [] => [.dollar]
  | step :: rest => step.tokens ++ tailTokens rest

end Path

def Operand.tokens : Operand → List Token
  | .path steps => Path.tokens steps
  | .variable name steps => .variable name :: Path.tailTokens steps
  | .literal value => [value.token]

def Assertion.tokens (a : Assertion) : List Token :=
  a.quantifier.toList.map Quantifier.token ++
    .identifier a.predicate.form.name :: .leftParen ::
      (a.left.tokens ++ a.right.toList.flatMap (fun right => .comma :: right.tokens) ++
        Rules.argumentTokens a.predicate.arguments ++ [.rightParen])

namespace AssertionTree

/-- Conjunctions and disjunctions stand in parentheses. -/
def group (tree : AssertionTree) (ts : List Token) : List Token :=
  if tree.followsNot then ts else .leftParen :: (ts ++ [.rightParen])

mutual

def tokens : AssertionTree → List Token
  | .leaf a => a.tokens
  | .and children => joinedTokens .andWord children
  | .or children => joinedTokens .orWord children
  | .not child => .notWord :: group child (tokens child)

def joinedTokens (separator : Token) : List AssertionTree → List Token
  | [] => []
  | [child] => group child (tokens child)
  | child :: next :: rest =>
    group child (tokens child) ++ separator :: joinedTokens separator (next :: rest)

end

end AssertionTree

/-- The tokens of a declaration and the semicolon behind it. -/
def Declaration.tokens (d : Declaration) : List Token :=
  .letWord :: .identifier d.name :: .equals :: (Path.tokens d.path ++ [.semicolon])

def Specification.tokens (spec : Specification) : List Token :=
  spec.declarations.flatMap Declaration.tokens ++ spec.assertions.tokens

/-! ### Derivations -/

namespace Rules

theorem tailTokens_derive (step : Step) : OneStep step.tailTokens step := by
  cases step with
  | field name =>
    unfold Step.tailTokens Step.tokens
    dsimp only
    split
    · exact .field name
    · exact .key (.field name)
  | index position => exact .key (.index position)
  | wildcard => exact .key .wildcard

theorem headTokens_derive (step : Step) : Head step.tokens step := by
  cases step with
  | field name =>
    unfold Step.tokens
    dsimp only
    split
    · exact .field name
    · exact .key (.field name)
  | index position => exact .key (.index position)
  | wildcard => exact .key .wildcard

theorem stepsTokens_derive (steps : Path) : Steps (Path.tailTokens steps) steps := by
  induction steps with
  | nil => exact .nil
  | cons step rest ih => exact .cons (tailTokens_derive step) ih

theorem pathTokens_derive (steps : Path) : PathFrom (Path.tokens steps) steps := by
  cases steps with
  | nil => exact .root .nil
  | cons step rest => exact .head (headTokens_derive step) (stepsTokens_derive rest)

/-- A text without declarations names no variable but by its sign. -/
theorem operandTokens_derive (operand : Operand) : OneOperand [] operand.tokens operand := by
  match operand with
  | .path steps => exact .path (pathTokens_derive steps) (by simp)
  | .variable name steps => exact .variable name (stepsTokens_derive steps)
  | .literal value => exact .literal value

/-- The tokens of an operand derive what replaces it, which is a literal only for a literal. -/
structure Rereads (declared : List String) (replace : Operand → Operand) : Prop where
  derives (operand : Operand) : OneOperand declared operand.tokens (replace operand)
  literal {operand : Operand} {value : Literal} (same : replace operand = .literal value) :
    operand = .literal value

theorem rereads_id : Rereads [] id where
  derives := operandTokens_derive
  literal same := same

section

variable {declared : List String} {replace : Operand → Operand}

theorem rightTokens_derive (rereads : Rereads declared replace) (right : Option Operand) :
    Second declared (right.toList.flatMap fun right => .comma :: right.tokens)
      (right.map replace) := by
  cases right with
  | none => exact .none
  | some right =>
    have derived := Second.some (rereads.derives right)
    simpa using derived

theorem wellFormed_mapOperands (rereads : Rereads declared replace) {a : Assertion}
    (wellFormed : a.WellFormed) : (a.mapOperands replace).WellFormed where
  operands := by
    rw [Assertion.mapOperands, Option.toList_map, List.length_map]
    exact wellFormed.operands
  arguments := wellFormed.arguments
  admitted := wellFormed.admitted
  unquantified := wellFormed.unquantified
  counted counts value same := wellFormed.counted counts value (rereads.literal same)

theorem assertionTokens_derive (rereads : Rereads declared replace) {a : Assertion}
    (wellFormed : a.WellFormed) : Leaf declared a.tokens (a.mapOperands replace) :=
  .intro (rereads.derives a.left) (rightTokens_derive rereads a.right)
    (wellFormed_mapOperands rereads wellFormed)

theorem joined_of_several {join : List AssertionTree → AssertionTree} {trees : List AssertionTree}
    (several : 2 ≤ trees.length) : joined join trees = join trees :=
  joined_of_length_ne_one (by omega)

theorem separated_of_each {separator : Token} {rule : List Token → AssertionTree → Prop}
    {children : List AssertionTree} (nonempty : children ≠ [])
    (each : ∀ child ∈ children, rule (child.group child.tokens) (child.mapOperands replace)) :
    Separated separator rule (AssertionTree.joinedTokens separator children)
      (AssertionTree.mapOperandsOf replace children) := by
  induction children with
  | nil => exact absurd rfl nonempty
  | cons child rest ih =>
    obtain ⟨first, later⟩ := List.forall_mem_cons.mp each
    cases rest with
    | nil => exact .last first
    | cons next rest => exact .more first (ih (List.cons_ne_nil _ _) later)

/-- The tokens of a tree derive it with its operands replaced, wherever there is room for its
nesting. -/
def Written (declared : List String) (replace : Operand → Operand) (tree : AssertionTree) : Prop :=
  ∀ ⦃room : Nat⦄, tree.nesting ≤ room →
    Disjunction declared room tree.tokens (tree.mapOperands replace) ∧
      (tree.followsNot → Part declared room tree.tokens (tree.mapOperands replace))

theorem disjunction_of_part {room : Nat} {ts : List Token} {tree : AssertionTree}
    (part : Part declared room ts tree) : Disjunction declared room ts tree :=
  ⟨[tree], .last (.last part), rfl⟩

theorem Written.part {tree : AssertionTree} {room : Nat} (written : Written declared replace tree)
    (shallow : tree.innerNesting ≤ room) :
    Part declared room (tree.group tree.tokens) (tree.mapOperands replace) := by
  unfold AssertionTree.innerNesting at shallow
  unfold AssertionTree.group
  split
  · next follows =>
    rw [if_pos follows] at shallow
    exact (written shallow).2 follows
  · next grouped =>
    rw [if_neg grouped] at shallow
    obtain ⟨room, rfl⟩ := Nat.exists_eq_add_of_le' (Nat.le_trans (Nat.le_add_right 1 _) shallow)
    have fits : tree.nesting ≤ room := by omega
    obtain ⟨⟨trees, disjuncts, same⟩, _⟩ := written fits
    have group :
        Part declared (room + 1) (.leftParen :: (tree.tokens ++ [.rightParen])) (joined .or trees) :=
      .group disjuncts
    rwa [← same] at group

theorem written_leaf (rereads : Rereads declared replace) {a : Assertion}
    (wellFormed : a.WellFormed) : Written declared replace (.leaf a) := by
  intro room _
  have part :
      Part declared room (AssertionTree.leaf a).tokens (.leaf (a.mapOperands replace)) :=
    .leaf (assertionTokens_derive rereads wellFormed)
  exact ⟨disjunction_of_part part, fun _ => part⟩

theorem written_not {child : AssertionTree} (inner : Written declared replace child) :
    Written declared replace (.not child) := by
  intro room shallow
  obtain ⟨room, rfl⟩ := Nat.exists_eq_add_of_le' (Nat.le_trans (Nat.le_add_right 1 _) shallow)
  have fits : child.innerNesting ≤ room := Nat.le_of_add_le_add_left (Nat.add_comm room 1 ▸ shallow)
  have part : Part declared (room + 1) (AssertionTree.not child).tokens
      (.not (child.mapOperands replace)) :=
    .not (inner.part fits)
  exact ⟨disjunction_of_part part, fun _ => part⟩

variable {children : List AssertionTree}

theorem ne_nil_of_several (several : 2 ≤ children.length) : children ≠ [] := by
  rintro rfl
  cases several

theorem several_mapOperandsOf (several : 2 ≤ children.length) :
    2 ≤ (AssertionTree.mapOperandsOf replace children).length := by
  rwa [AssertionTree.mapOperandsOf_eq_map, List.length_map]

theorem parts_of_written {room : Nat}
    (each : ∀ child ∈ children, Written declared replace child)
    (shallow : AssertionTree.nestingOf children ≤ room) :
    ∀ child ∈ children,
      Part declared room (child.group child.tokens) (child.mapOperands replace) := by
  intro child member
  have inner := AssertionTree.innerNesting_le_nestingOf member
  exact (each child member).part (Nat.le_trans inner shallow)

theorem written_and (several : 2 ≤ children.length)
    (each : ∀ child ∈ children, Written declared replace child) :
    Written declared replace (.and children) := by
  intro room shallow
  have parts := parts_of_written each shallow
  have chain : Separated .andWord (Part declared room)
      (AssertionTree.joinedTokens .andWord children) (AssertionTree.mapOperandsOf replace children) :=
    separated_of_each (ne_nil_of_several several) parts
  refine ⟨⟨[joined .and _], .last (conjuncts_of_separated chain), ?_⟩, ?_⟩
  · exact (joined_of_several (several_mapOperandsOf several)).symm
  · simp [AssertionTree.followsNot]

theorem written_or (several : 2 ≤ children.length)
    (each : ∀ child ∈ children, Written declared replace child) :
    Written declared replace (.or children) := by
  intro room shallow
  have parts := parts_of_written each shallow
  have chain : Separated .orWord (Chain .andWord .and (Part declared room))
      (AssertionTree.joinedTokens .orWord children) (AssertionTree.mapOperandsOf replace children) :=
    separated_of_each (ne_nil_of_several several) fun child member =>
      ⟨[child.mapOperands replace], .last (parts child member), rfl⟩
  refine ⟨⟨_, disjuncts_of_separated chain, ?_⟩, ?_⟩
  · exact (joined_of_several (several_mapOperandsOf several)).symm
  · simp [AssertionTree.followsNot]

theorem written_of_branching (rereads : Rereads declared replace) {tree : AssertionTree}
    (branching : tree.Branching) (wellFormed : ∀ a ∈ tree.leaves, a.WellFormed) :
    Written declared replace tree := by
  induction branching with
  | leaf a => exact written_leaf rereads (wellFormed a (by simp [AssertionTree.leaves]))
  | and several _ ih =>
    have inner := AssertionTree.forall_mem_leavesOf.mp wellFormed
    exact written_and several fun child member => ih child member (inner child member)
  | or several _ ih =>
    have inner := AssertionTree.forall_mem_leavesOf.mp wellFormed
    exact written_or several fun child member => ih child member (inner child member)
  | not _ ih => exact written_not (ih wellFormed)

end

theorem declarationTokens_derive (ds : List Declaration) :
    Declarations (ds.flatMap Declaration.tokens) ds := by
  induction ds with
  | nil => exact .nil
  | cons d ds ih =>
    have derived := Declarations.cons d.name (pathTokens_derive d.path) ih
    simpa [Declaration.tokens] using derived

theorem source_of_written {replace : Operand → Operand} (spec : Specification)
    (rereads : Rereads (spec.declarations.map (·.name)) replace)
    (branching : spec.assertions.Branching)
    (wellFormed : ∀ a ∈ spec.assertions.leaves, a.WellFormed)
    (shallow : spec.assertions.nesting ≤ maxNesting) :
    Source spec.tokens ⟨spec.declarations, spec.assertions.mapOperands replace⟩ := by
  have statement := (written_of_branching rereads branching wellFormed shallow).1
  exact .intro (declarationTokens_derive spec.declarations) (.last statement)
    (List.cons_ne_nil _ [])

theorem source_of_tokens {tree : AssertionTree} (branching : tree.Branching)
    (wellFormed : ∀ a ∈ tree.leaves, a.WellFormed) (shallow : tree.nesting ≤ maxNesting) :
    Source tree.tokens ⟨[], tree⟩ := by
  have source := source_of_written ⟨[], tree⟩ rereads_id branching wellFormed shallow
  have same : tree.mapOperands id = tree := AssertionTree.mapOperands_eq_self.mpr fun _ _ _ _ => rfl
  rwa [same] at source

end Rules

end Attest
