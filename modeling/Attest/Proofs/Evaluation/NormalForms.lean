import Attest.Proofs.Evaluation.ShortCircuit
import Attest.Proofs.Syntax.Rules
import Mathlib.Logic.Relation
/-!
# Normal forms of trees

Laws of logic rewrite a tree until negations stand before leaves alone and junctions alternate.
Evaluation from the left reaches the same leaves of the rewritten tree and gives the same, errors
included.
-/

namespace Attest

namespace AssertionTree

/-! ### Rewriting -/

/-- A conjunction, whose children are evaluated while they are true, or a disjunction. -/
def junction : Bool → List AssertionTree → AssertionTree
  | true, children => .and children
  | false, children => .or children

/-- One law of logic, applied to one part of a tree. -/
inductive Rewrites : AssertionTree → AssertionTree → Prop
  | notNot (tree : AssertionTree) : Rewrites (.not (.not tree)) tree
  /-- De Morgan's laws. -/
  | notJunction (unit : Bool) (children : List AssertionTree) :
      Rewrites (.not (junction unit children)) (junction (!unit) (children.map .not))
  | single (unit : Bool) (tree : AssertionTree) : Rewrites (junction unit [tree]) tree
  /-- A junction within one of its kind. -/
  | flatten (unit : Bool) (before inner after : List AssertionTree) :
      Rewrites (junction unit (before ++ junction unit inner :: after))
        (junction unit (before ++ (inner ++ after)))
  | inNot {tree other : AssertionTree} (inner : Rewrites tree other) :
      Rewrites (.not tree) (.not other)
  | inJunction (unit : Bool) (before after : List AssertionTree) {tree other : AssertionTree}
      (inner : Rewrites tree other) :
      Rewrites (junction unit (before ++ tree :: after)) (junction unit (before ++ other :: after))

theorem leaves_junction (unit : Bool) (children : List AssertionTree) :
    (junction unit children).leaves = leavesOf children := by
  cases unit <;> rfl

theorem leafCount_junction (unit : Bool) (children : List AssertionTree) :
    (junction unit children).leafCount = leafCounts children := by
  cases unit <;> rfl

theorem leavesOf_not (children : List AssertionTree) :
    leavesOf (children.map .not) = leavesOf children := by
  induction children with
  | nil => rfl
  | cons child rest ih => rw [List.map_cons, leavesOf, leavesOf, ih, leaves]

theorem Rewrites.leaves {tree other : AssertionTree} (rewrites : Rewrites tree other) :
    other.leaves = tree.leaves := by
  induction rewrites with
  | notNot tree => rfl
  | notJunction unit children =>
    rw [AssertionTree.leaves, leaves_junction, leaves_junction, leavesOf_not]
  | single unit tree => simp [leaves_junction, leavesOf]
  | flatten unit before inner after => simp [leaves_junction, leavesOf_append, leavesOf]
  | inNot _ ih => exact ih
  | inJunction unit before after _ ih => simp [leaves_junction, leavesOf_append, leavesOf, ih]

/-! ### What evaluation reaches -/

section

variable {leaf : Assertion → Except AssertionError Bool} {unit : Bool}
  {children before first second : List AssertionTree} {reached more : List Nat}
  {result : Except AssertionError Bool}

theorem reaches_junction :
    Reaches leaf (junction unit children) reached result ↔
      ReachesEach leaf unit children reached result := by
  cases unit with
  | true =>
    refine ⟨fun reaches => ?_, .and⟩
    cases reaches with
    | and each => exact each
  | false =>
    refine ⟨fun reaches => ?_, .or⟩
    cases reaches with
    | or each => exact each

/-- Negated children go on where the children do, and stop where they stop. -/
theorem ReachesEach.not (reaches : ReachesEach leaf unit children reached result) :
    ReachesEach leaf (!unit) (children.map .not) reached (result.map Bool.not) := by
  induction children generalizing reached with
  | nil =>
    cases reaches
    exact .nil _
  | cons child rest ih =>
    cases reaches with
    | next here later => exact .next (.not here) (ih later)
    | stop here ends =>
      refine .stop (.not here) ?_
      cases result with
      | ok value =>
        intro same
        have values := Except.ok.inj same
        rw [Bool.not_inj values] at ends
        exact ends rfl
      | error e =>
        intro same
        cases same

theorem ReachesEach.single {tree : AssertionTree}
    (reaches : ReachesEach leaf unit [tree] reached result) : Reaches leaf tree reached result := by
  cases reaches with
  | next here later =>
    cases later
    simpa using here
  | stop here _ => exact here

/-- Children that all go on, with others after them. -/
theorem ReachesEach.append (here : ReachesEach leaf unit first reached (.ok unit))
    (later : ReachesEach leaf unit second more result) :
    ReachesEach leaf unit (first ++ second) (reached ++ more.map (leafCounts first + ·)) result := by
  induction first generalizing reached with
  | nil =>
    cases here
    simpa [leafCounts] using later
  | cons child rest ih =>
    cases here with
    | @next _ _ _ start others _ holds goes =>
      have numbers : start ++ others.map (child.leafCount + ·) ++
            more.map (leafCounts (child :: rest) + ·) =
          start ++ (others ++ more.map (leafCounts rest + ·)).map (child.leafCount + ·) := by
        simp [leafCounts, Nat.add_assoc]
      rw [numbers]
      exact .next holds (ih goes)
    | stop _ ends => exact absurd rfl ends

theorem ReachesEach.stopped (here : ReachesEach leaf unit first reached result)
    (ends : result ≠ .ok unit) : ReachesEach leaf unit (first ++ second) reached result := by
  induction first generalizing reached with
  | nil =>
    cases here
    exact absurd rfl ends
  | cons child rest ih =>
    cases here with
    | next holds goes => exact .next holds (ih goes)
    | stop stops _ => exact .stop stops ends

theorem ReachesEach.flatten {inner after : List AssertionTree}
    (reaches : ReachesEach leaf unit (junction unit inner :: after) reached result) :
    ReachesEach leaf unit (inner ++ after) reached result := by
  cases reaches with
  | next here later =>
    rw [leafCount_junction]
    exact (reaches_junction.mp here).append later
  | stop here ends => exact (reaches_junction.mp here).stopped ends

/-- What may replace some children may replace them behind others. -/
theorem ReachesEach.behind
    (replaces : ∀ reached result, ReachesEach leaf unit first reached result →
      ReachesEach leaf unit second reached result)
    (reaches : ReachesEach leaf unit (before ++ first) reached result) :
    ReachesEach leaf unit (before ++ second) reached result := by
  induction before generalizing reached with
  | nil => exact replaces reached result reaches
  | cons child rest ih =>
    cases reaches with
    | next here later => exact .next here (ih later)
    | stop here ends => exact .stop here ends

/-! ### Same runs -/

/-- Evaluation reaches the same leaves of two trees, with the same result. -/
structure SameRun (leaf : Assertion → Except AssertionError Bool) (tree other : AssertionTree) :
    Prop where
  leaves : other.leaves = tree.leaves
  reaches : ∀ reached result, Reaches leaf other reached result ↔ Reaches leaf tree reached result

namespace SameRun

variable {tree other third : AssertionTree}

/-- Since an evaluation always reaches something and nothing else, one direction is enough. -/
theorem of_reaches (leaves : other.leaves = tree.leaves)
    (forward : ∀ reached result, Reaches leaf tree reached result →
      Reaches leaf other reached result) : SameRun leaf tree other where
  leaves := leaves
  reaches := by
    intro reached result
    refine ⟨fun second => ?_, forward reached result⟩
    obtain ⟨others, first, _⟩ := evaluate_reaches leaf tree
    obtain ⟨rfl, rfl⟩ := (forward _ _ first).unique second
    exact first

theorem refl (tree : AssertionTree) : SameRun leaf tree tree := ⟨rfl, fun _ _ => Iff.rfl⟩

theorem trans (first : SameRun leaf tree other) (second : SameRun leaf other third) :
    SameRun leaf tree third where
  leaves := second.leaves.trans first.leaves
  reaches := fun reached result =>
    (second.reaches reached result).trans (first.reaches reached result)

theorem leafCount (same : SameRun leaf tree other) : other.leafCount = tree.leafCount := by
  rw [← length_leaves, same.leaves, length_leaves]

theorem evaluate (same : SameRun leaf tree other) : other.evaluate leaf = tree.evaluate leaf := by
  obtain ⟨reached, first, completed⟩ := evaluate_reaches leaf tree
  obtain ⟨others, second, records⟩ := evaluate_reaches leaf other
  obtain ⟨rfl, result⟩ := ((same.reaches _ _).mp second).unique first
  refine congrArg₂ Outcome.mk result ?_
  rw [completed, records, same.leaves]

end SameRun

/-- One law leaves the run as it is. -/
theorem Rewrites.sameRun {tree other : AssertionTree} (rewrites : Rewrites tree other) :
    SameRun leaf tree other := by
  refine .of_reaches rewrites.leaves ?_
  induction rewrites with
  | notNot tree =>
    intro reached result reaches
    cases reaches with
    | @not _ _ inner reaches =>
      cases reaches with
      | @not _ _ result reaches =>
        have twice : (result.map Bool.not).map Bool.not = result := by
          cases result <;> simp [Except.map]
        rwa [twice]
  | notJunction unit children =>
    intro reached result reaches
    cases reaches with
    | not inner => exact reaches_junction.mpr (reaches_junction.mp inner).not
  | single unit tree =>
    intro reached result reaches
    exact (reaches_junction.mp reaches).single
  | flatten unit before inner after =>
    intro reached result reaches
    refine reaches_junction.mpr ?_
    exact (reaches_junction.mp reaches).behind fun _ _ => ReachesEach.flatten
  | inNot _ ih =>
    intro reached result reaches
    cases reaches with
    | not inner => exact .not (ih _ _ inner)
  | inJunction unit before after inner ih =>
    intro reached result reaches
    refine reaches_junction.mpr ((reaches_junction.mp reaches).behind fun reached result here => ?_)
    have count := (SameRun.of_reaches inner.leaves ih).leafCount
    cases here with
    | next holds later =>
      rw [← count]
      exact .next (ih _ _ holds) later
    | stop stops ends => exact .stop (ih _ _ stops) ends

end

/-! ### Normal forms -/

/-- Negations stand before leaves alone. A junction has no child of its kind, and has not just one
child. -/
inductive Normal : AssertionTree → Prop
  | leaf (a : Assertion) : Normal (.leaf a)
  | notLeaf (a : Assertion) : Normal (.not (.leaf a))
  | junction (unit : Bool) {children : List AssertionTree} (several : children.length ≠ 1)
      (each : ∀ child ∈ children, Normal child)
      (alternate : ∀ inner, AssertionTree.junction unit inner ∉ children) :
      Normal (junction unit children)

/-- What a tree adds to a junction that it is a child of: its children, if it is of that kind. -/
def parts : Bool → AssertionTree → List AssertionTree
  | true, .and children => children
  | false, .or children => children
  | _, tree => [tree]

/-- The junction of some trees, without junctions of its kind in it. -/
def gathered (unit : Bool) (children : List AssertionTree) : AssertionTree :=
  Rules.joined (junction unit) (children.flatMap (parts unit))

mutual

/-- The normal form of a tree, or of its negation if it is not `kept`. -/
def normalized (kept : Bool) : AssertionTree → AssertionTree
  | .leaf a => if kept then .leaf a else .not (.leaf a)
  | .and children => gathered kept (normalizedEach kept children)
  | .or children => gathered (!kept) (normalizedEach kept children)
  | .not child => normalized (!kept) child

def normalizedEach (kept : Bool) : List AssertionTree → List AssertionTree
  | [] => []
  | child :: rest => normalized kept child :: normalizedEach kept rest

end

/-- A tree, or its negation if it is not `kept`. -/
def signed (kept : Bool) (tree : AssertionTree) : AssertionTree :=
  if kept then tree else .not tree

theorem normalizedEach_eq_map (kept : Bool) (children : List AssertionTree) :
    normalizedEach kept children = children.map (normalized kept) := by
  induction children with
  | nil => rfl
  | cons child rest ih => rw [normalizedEach, ih, List.map_cons]

theorem parts_cases (unit : Bool) (tree : AssertionTree) :
    (∃ inner, tree = junction unit inner ∧ parts unit tree = inner) ∨
      (∀ inner, tree ≠ junction unit inner) ∧ parts unit tree = [tree] := by
  cases unit <;> cases tree <;> simp [junction, parts]

open Relation

theorem rewrites_each (unit : Bool) {first second : AssertionTree → AssertionTree}
    (before children : List AssertionTree)
    (each : ∀ child ∈ children, ReflTransGen Rewrites (first child) (second child)) :
    ReflTransGen Rewrites (junction unit (before ++ children.map first))
      (junction unit (before ++ children.map second)) := by
  induction children generalizing before with
  | nil => exact .refl
  | cons child rest ih =>
    obtain ⟨here, later⟩ := List.forall_mem_cons.mp each
    -- the first child is rewritten where it stands, then it is one of those before
    have one : ReflTransGen Rewrites (junction unit (before ++ first child :: rest.map first))
        (junction unit (before ++ second child :: rest.map first)) :=
      here.lift (fun tree => junction unit (before ++ tree :: rest.map first)) fun _ _ =>
        .inJunction unit before _
    have others := ih (before ++ [second child]) later
    rw [List.append_assoc, List.append_assoc] at others
    exact one.trans others

theorem rewrites_flat (unit : Bool) (before children : List AssertionTree) :
    ReflTransGen Rewrites (junction unit (before ++ children))
      (junction unit (before ++ children.flatMap (parts unit))) := by
  induction children generalizing before with
  | nil => exact .refl
  | cons child rest ih =>
    rw [List.flatMap_cons, ← List.append_assoc]
    rcases parts_cases unit child with ⟨inner, rfl, flat⟩ | ⟨_, flat⟩
    · rw [flat]
      refine .head (.flatten unit before inner rest) ?_
      rw [← List.append_assoc]
      exact ih (before ++ inner)
    · rw [flat, List.append_cons]
      exact ih (before ++ [child])

theorem rewrites_gathered (unit : Bool) (children : List AssertionTree) :
    ReflTransGen Rewrites (junction unit children) (gathered unit children) := by
  refine (rewrites_flat unit [] children).trans ?_
  unfold gathered
  generalize children.flatMap (parts unit) = flat
  match flat with
  | [] => exact .refl
  | [tree] => exact .single (.single unit tree)
  | _ :: _ :: _ => exact .refl

theorem normalized_junction (kept unit : Bool) (children : List AssertionTree) :
    normalized kept (junction unit children) =
      gathered (unit == kept) (children.map (normalized kept)) := by
  rw [← normalizedEach_eq_map]
  cases unit <;> cases kept <;> rfl

/-- A junction, negated or not, becomes the junction of its children with the same sign. -/
theorem rewrites_signed (kept unit : Bool) (children : List AssertionTree) :
    ReflTransGen Rewrites (signed kept (junction unit children))
      (junction (unit == kept) (children.map (signed kept))) := by
  cases kept with
  | true =>
    have same : children.map (signed true) = children := List.map_id children
    rw [same, beq_true]
    exact .refl
  | false =>
    rw [beq_false]
    exact .single (.notJunction unit children)

theorem rewrites_junction (kept unit : Bool) {children : List AssertionTree}
    (each : ∀ child ∈ children, ReflTransGen Rewrites (signed kept child) (normalized kept child)) :
    ReflTransGen Rewrites (signed kept (junction unit children))
      (normalized kept (junction unit children)) := by
  rw [normalized_junction]
  exact (rewrites_signed kept unit children).trans
    ((rewrites_each (unit == kept) [] children each).trans (rewrites_gathered _ _))

theorem rewrites_normalized (kept : Bool) (tree : AssertionTree) :
    ReflTransGen Rewrites (signed kept tree) (normalized kept tree) := by
  induction tree generalizing kept with
  | leaf a => cases kept <;> exact .refl
  | and children ih => exact rewrites_junction kept true fun child member => ih child member kept
  | or children ih => exact rewrites_junction kept false fun child member => ih child member kept
  | not child ih =>
    cases kept with
    | true => exact ih false
    | false => exact .head (.notNot child) (ih true)

theorem junction_inj {unit other : Bool} {first second : List AssertionTree}
    (same : junction unit first = junction other second) : unit = other ∧ first = second := by
  cases unit <;> cases other <;> cases same <;> exact ⟨rfl, rfl⟩

theorem normal_parts {unit : Bool} {tree part : AssertionTree} (normal : Normal tree)
    (member : part ∈ tree.parts unit) : Normal part ∧ ∀ inner, part ≠ junction unit inner := by
  rcases parts_cases unit tree with ⟨inner, whole, flat⟩ | ⟨other, flat⟩
  · rw [flat] at member
    cases normal with
    | leaf a => cases unit <;> cases whole
    | notLeaf a => cases unit <;> cases whole
    | junction kind several each alternate =>
      obtain ⟨rfl, rfl⟩ := junction_inj whole
      exact ⟨each part member, fun inner same => alternate inner (same ▸ member)⟩
  · rw [flat] at member
    rw [List.mem_singleton.mp member]
    exact ⟨normal, other⟩

theorem normal_flat (unit : Bool) {children : List AssertionTree}
    (each : ∀ child ∈ children, Normal child) :
    ∀ part ∈ children.flatMap (parts unit), Normal part ∧ ∀ inner, part ≠ junction unit inner := by
  intro part member
  obtain ⟨child, here, inside⟩ := List.mem_flatMap.mp member
  exact normal_parts (each child here) inside

theorem normal_gathered (unit : Bool) {children : List AssertionTree}
    (each : ∀ child ∈ children, Normal child) : Normal (gathered unit children) := by
  have flat := normal_flat unit each
  unfold gathered
  generalize children.flatMap (parts unit) = trees at flat
  have whole (several : trees.length ≠ 1) : Normal (junction unit trees) :=
    .junction unit several (fun part member => (flat part member).1)
      fun inner member => (flat _ member).2 inner rfl
  match trees with
  | [] => exact whole (by simp)
  | [tree] => exact (flat tree List.mem_cons_self).1
  | _ :: _ :: _ => exact whole (by simp)

theorem normal_normalizedJunction (kept unit : Bool) {children : List AssertionTree}
    (each : ∀ child ∈ children, Normal (normalized kept child)) :
    Normal (normalized kept (junction unit children)) := by
  rw [normalized_junction]
  refine normal_gathered _ fun part member => ?_
  obtain ⟨child, here, rfl⟩ := List.mem_map.mp member
  exact each child here

theorem normal_normalized (kept : Bool) (tree : AssertionTree) : Normal (normalized kept tree) := by
  induction tree generalizing kept with
  | leaf a =>
    cases kept with
    | true => exact .leaf a
    | false => exact .notLeaf a
  | and children ih => exact normal_normalizedJunction kept true fun child here => ih child here kept
  | or children ih => exact normal_normalizedJunction kept false fun child here => ih child here kept
  | not child ih => exact ih (!kept)

/-! ### One normal form -/

theorem parts_junction (unit : Bool) (children : List AssertionTree) :
    parts unit (junction unit children) = children := by
  cases unit <;> rfl

theorem parts_of_other {unit : Bool} {tree : AssertionTree}
    (other : ∀ inner, tree ≠ junction unit inner) : parts unit tree = [tree] := by
  rcases parts_cases unit tree with ⟨inner, same, _⟩ | ⟨_, flat⟩
  · exact absurd same (other inner)
  · exact flat

theorem parts_gathered (unit : Bool) {children : List AssertionTree}
    (each : ∀ child ∈ children, Normal child) :
    parts unit (gathered unit children) = children.flatMap (parts unit) := by
  have flat := normal_flat unit each
  unfold gathered
  generalize children.flatMap (parts unit) = trees at flat
  by_cases several : trees.length = 1
  · obtain ⟨tree, rfl⟩ := List.length_eq_one_iff.mp several
    exact parts_of_other (flat tree List.mem_cons_self).2
  · rw [Rules.joined_of_length_ne_one several, parts_junction]

/-- A junction within one of its kind gives its parts to it. -/
theorem gathered_flatten (unit : Bool) (before after : List AssertionTree)
    {inner : List AssertionTree} (each : ∀ child ∈ inner, Normal child) :
    gathered unit (before ++ gathered unit inner :: after) =
      gathered unit (before ++ (inner ++ after)) := by
  have flat : (before ++ gathered unit inner :: after).flatMap (parts unit) =
      (before ++ (inner ++ after)).flatMap (parts unit) := by
    rw [List.flatMap_append, List.flatMap_cons, parts_gathered unit each, List.flatMap_append,
      List.flatMap_append]
  exact congrArg (Rules.joined (junction unit)) flat

theorem gathered_of_normal {unit : Bool} {children : List AssertionTree}
    (several : children.length ≠ 1) (alternate : ∀ inner, junction unit inner ∉ children) :
    gathered unit children = junction unit children := by
  have flat : children.flatMap (parts unit) = children := by
    refine (List.flatMap_congr fun child member => ?_).trans (List.flatMap_singleton' children)
    exact parts_of_other fun inner same => alternate inner (same ▸ member)
  unfold gathered
  rw [flat, Rules.joined_of_length_ne_one several]

/-- A junction with one child is that child. -/
theorem gathered_single (unit : Bool) {tree : AssertionTree} (normal : Normal tree) :
    gathered unit [tree] = tree := by
  unfold gathered
  rw [List.flatMap_singleton]
  rcases parts_cases unit tree with ⟨inner, whole, flat⟩ | ⟨_, flat⟩
  · rw [flat]
    cases normal with
    | leaf a => cases unit <;> cases whole
    | notLeaf a => cases unit <;> cases whole
    | junction kind several each alternate =>
      obtain ⟨rfl, rfl⟩ := junction_inj whole
      exact Rules.joined_of_length_ne_one several
  · rw [flat]
    rfl

theorem normalized_of_normal {tree : AssertionTree} (normal : Normal tree) :
    normalized true tree = tree := by
  induction normal with
  | leaf a => rfl
  | notLeaf a => rfl
  | junction unit several each alternate ih =>
    rw [normalized_junction, beq_true, List.map_congr_left ih, List.map_id']
    exact gathered_of_normal several alternate

/-- Trees that rewrite to each other have the same normal form. -/
theorem normalized_of_rewrites {tree other : AssertionTree} (rewrites : Rewrites tree other)
    (kept : Bool) : normalized kept other = normalized kept tree := by
  induction rewrites generalizing kept with
  | notNot tree => simp [normalized]
  | notJunction unit children =>
    have kind : ((!unit) == kept) = (unit == !kept) := by cases unit <;> cases kept <;> rfl
    rw [normalized, normalized_junction, normalized_junction, List.map_map, kind]
    rfl
  | single unit tree =>
    rw [normalized_junction]
    exact (gathered_single _ (normal_normalized kept tree)).symm
  | flatten unit before inner after =>
    have normal : ∀ part ∈ inner.map (normalized kept), Normal part := by
      intro part member
      obtain ⟨child, _, rfl⟩ := List.mem_map.mp member
      exact normal_normalized kept child
    rw [normalized_junction, normalized_junction, List.map_append, List.map_append, List.map_append,
      List.map_cons, normalized_junction]
    exact (gathered_flatten _ _ _ normal).symm
  | inNot _ ih =>
    rw [normalized, normalized]
    exact ih (!kept)
  | inJunction unit before after _ ih =>
    rw [normalized_junction, normalized_junction]
    simp [ih]

/-- The normal form of a tree. -/
def normalForm (tree : AssertionTree) : AssertionTree :=
  normalized true tree

variable {tree other : AssertionTree}

theorem normalForm_of_rewrites (rewrites : ReflTransGen Rewrites tree other) :
    other.normalForm = tree.normalForm := by
  induction rewrites with
  | refl => rfl
  | tail _ last ih => exact (normalized_of_rewrites last true).trans ih

theorem sameRun_of_rewrites (leaf : Assertion → Except AssertionError Bool)
    (rewrites : ReflTransGen Rewrites tree other) : SameRun leaf tree other := by
  induction rewrites with
  | refl => exact .refl tree
  | tail _ last ih => exact ih.trans last.sameRun

end AssertionTree

namespace Scope

open AssertionTree Relation

/-- The laws of logic lead a tree to one normal form. However they rewrite it, on the way there or
elsewhere, its evaluation gives the same and reaches the same leaves in the same order. -/
theorem evaluate_rewritten (s : Scope) (tree : AssertionTree) :
    ReflTransGen Rewrites tree tree.normalForm ∧ Normal tree.normalForm ∧
      ∀ other, ReflTransGen Rewrites tree other →
        (Normal other → other = tree.normalForm) ∧
          s.evaluate other = s.evaluate tree ∧ other.leaves = tree.leaves ∧
            ∀ reached result,
              Reaches s.leaf other reached result ↔ Reaches s.leaf tree reached result := by
  refine ⟨rewrites_normalized true tree, normal_normalized true tree, fun other rewrites => ?_⟩
  have same := sameRun_of_rewrites s.leaf rewrites
  refine ⟨fun normal => ?_, same.evaluate, same.leaves, same.reaches⟩
  exact (normalized_of_normal normal).symm.trans (normalForm_of_rewrites rewrites)

/-- An assertion that holds, and one whose operand matches nothing. -/
def failing : AssertionTree :=
  .not (.and [
    .leaf ⟨none, ⟨.exists, []⟩, .path [], none⟩,
    .not (.leaf ⟨none, ⟨.matches, [.string "x"]⟩, .path [.field "a"], none⟩)])

theorem evaluate_rewritten_failing :
    let s : Scope := ⟨.null, .empty⟩
    let other : AssertionTree := .or [
      .not (.leaf ⟨none, ⟨.exists, []⟩, .path [], none⟩),
      .leaf ⟨none, ⟨.matches, [.string "x"]⟩, .path [.field "a"], none⟩]
    ReflTransGen Rewrites failing other ∧ Normal other ∧ other = failing.normalForm ∧
      s.evaluate other = s.evaluate failing ∧
        (s.evaluate failing).result = .error (.emptyOperand .matches (.path [.field "a"])) := by
  intro s other
  have negated : Rewrites failing _ := .notJunction true _
  have twice : Rewrites _ other := .inJunction false [_] [] (.notNot _)
  have rewrites : ReflTransGen Rewrites failing other := .tail (.single negated) twice
  have normal : Normal other := normal_normalized true failing
  have same := (evaluate_rewritten s failing).2.2 other rewrites
  exact ⟨rewrites, normal, same.1 normal, same.2.1, rfl⟩

end Scope

end Attest
