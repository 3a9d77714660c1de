import Attest.Proofs.Syntax.Diagnostics
/-!
# Scopes of a tree

A node together with those around it, and what becomes of them while the tree grows.
-/

namespace Attest

namespace Construct

/-- Another state of a construct of the same kind. -/
inductive Revises : Construct → Construct → Prop
  | same (construct : Construct) : Revises construct construct
  | predicate (before after : Predicate) : Revises (.predicate before) (.predicate after)
  | assertion (before after : AssertionDraft) : Revises (.assertion before) (.assertion after)
  | declaration (before after : DeclarationDraft) :
      Revises (.declaration before) (.declaration after)

variable {before between after : Construct}

theorem Revises.trans (first : Revises before between) (second : Revises between after) :
    Revises before after := by
  cases first with
  | same => exact second
  | predicate _ predicate =>
    generalize same : Construct.predicate predicate = between at second
    cases second <;> cases same <;> exact .predicate ..
  | assertion _ draft =>
    generalize same : Construct.assertion draft = between at second
    cases second <;> cases same <;> exact .assertion ..
  | declaration _ draft =>
    generalize same : Construct.declaration draft = between at second
    cases second <;> cases same <;> exact .declaration ..

/-- A construct has a name before it is closed exactly if it has one afterwards. -/
theorem Revises.isSome_name? (revises : Revises before after) :
    after.name?.isSome = before.name?.isSome := by
  cases revises <;> rfl

/-- A construct that has assertions within it, and so may have constructs of its kind within it. -/
def Nests : Construct → Prop
  | .negation | .group => True
  | _ => False

theorem Revises.nests (revises : Revises before after) (nests : after.Nests) : before.Nests := by
  cases revises with
  | same => exact nests
  | _ => exact nests.elim

theorem Revises.model (revises : Revises .model after) : after = .model := by
  cases revises
  rfl

end Construct

namespace SyntaxTree

variable {tree tree' later : SyntaxTree} {id top : Nat} {scope : List Nat}

/-- Each of the nodes exists, and its parent is the next one; the last has none. -/
def Linked (tree : SyntaxTree) : List Nat → Prop
  | [] => True
  | id :: scope => (∃ construct, tree.get? id = some ⟨scope.head?, construct⟩) ∧ Linked tree scope

/-- Parents come before what is within them, and only the first node, the model, has none. -/
structure Ordered (tree : SyntaxTree) : Prop where
  earlier : ∀ id parent construct, tree.get? id = some ⟨some parent, construct⟩ → parent < id
  root : ∀ id construct, tree.get? id = some ⟨none, construct⟩ → id = 0 ∧ construct = .model

/-- Nodes keep their places and their kinds while others are added. -/
def Grows (tree tree' : SyntaxTree) : Prop :=
  ∀ id parent before, tree.get? id = some ⟨parent, before⟩ →
    ∃ after, tree'.get? id = some ⟨parent, after⟩ ∧ before.Revises after

theorem get?_set_ne {construct : Construct} (other : id ≠ top) :
    (tree.set top construct).get? id = tree.get? id := by
  unfold set get?
  rw [Array.getElem?_modify, if_neg (Ne.symm other)]

theorem get?_set_self {construct : Construct} :
    (tree.set id construct).get? id = (tree.get? id).map ({ · with construct }) := by
  unfold set get?
  rw [Array.getElem?_modify, if_pos rfl]

theorem lt_size_of_get? {node : SyntaxNode} (here : tree.get? id = some node) : id < tree.size :=
  (Array.getElem?_eq_some_iff.mp here).1

theorem get?_push_cases {parent : Option Nat} {construct : Construct} {node : SyntaxNode}
    (here : (tree.push parent construct).get? id = some node) :
    tree.get? id = some node ∨ id = tree.size ∧ node = ⟨parent, construct⟩ := by
  have before := lt_size_of_get? here
  have size : (tree.push parent construct).size = tree.size + 1 := Array.size_push _
  by_cases last : id = tree.size
  · subst last
    rw [get?_push_size] at here
    exact .inr ⟨rfl, (Option.some.inj here).symm⟩
  · rw [get?_push_of_lt (by omega)] at here
    exact .inl here

theorem Grows.refl (tree : SyntaxTree) : Grows tree tree :=
  fun _ _ before here => ⟨before, here, .same before⟩

theorem Grows.trans (first : Grows tree tree') (second : Grows tree' later) :
    Grows tree later := by
  intro id parent before here
  obtain ⟨between, there, revises⟩ := first id parent before here
  obtain ⟨after, last, further⟩ := second id parent between there
  exact ⟨after, last, revises.trans further⟩

theorem grows_push (parent : Option Nat) (construct : Construct) :
    Grows tree (tree.push parent construct) :=
  fun _ _ before here =>
    ⟨before, (get?_push_of_lt (lt_size_of_get? here)).trans here, .same before⟩

theorem grows_set {parent : Option Nat} {before after : Construct}
    (node : tree.get? top = some ⟨parent, before⟩) (revises : before.Revises after) :
    Grows tree (tree.set top after) := by
  intro id outer construct here
  by_cases same : id = top
  · subst same
    obtain ⟨rfl, rfl⟩ := SyntaxNode.mk.inj (Option.some.inj (here.symm.trans node))
    exact ⟨after, by rw [get?_set_self, here]; rfl, revises⟩
  · exact ⟨construct, (get?_set_ne same).trans here, .same construct⟩

theorem Linked.grows (linked : Linked tree scope) (grows : Grows tree tree') :
    Linked tree' scope := by
  induction scope with
  | nil => trivial
  | cons id scope ih =>
    obtain ⟨⟨construct, here⟩, outer⟩ := linked
    obtain ⟨after, there, _⟩ := grows id _ construct here
    exact ⟨⟨after, there⟩, ih outer⟩

theorem Linked.lt_size (linked : Linked tree scope) (member : id ∈ scope) : id < tree.size := by
  induction scope with
  | nil => cases member
  | cons first scope ih =>
    rcases List.mem_cons.mp member with rfl | member
    · obtain ⟨⟨construct, here⟩, _⟩ := linked
      exact lt_size_of_get? here
    · exact ih linked.2 member

theorem Ordered.push {construct : Construct} (ordered : Ordered tree) (before : top < tree.size) :
    Ordered (tree.push (some top) construct) := by
  refine ⟨fun id parent found here => ?_, fun id found here => ?_⟩
  · rcases get?_push_cases here with here | ⟨rfl, new⟩
    · exact ordered.earlier id parent found here
    · obtain ⟨same, _⟩ := SyntaxNode.mk.inj new
      rw [Option.some.inj same]
      exact before
  · rcases get?_push_cases here with here | ⟨rfl, new⟩
    · exact ordered.root id found here
    · cases new

theorem Ordered.set {parent : Option Nat} {before after : Construct} (ordered : Ordered tree)
    (node : tree.get? top = some ⟨parent, before⟩) (revises : before.Revises after) :
    Ordered (tree.set top after) := by
  have new : (tree.set top after).get? top = some ⟨parent, after⟩ := by
    rw [get?_set_self, node]
    rfl
  refine ⟨fun id outer found here => ?_, fun id found here => ?_⟩
  · by_cases same : id = top
    · subst same
      obtain ⟨rfl, _⟩ := SyntaxNode.mk.inj (Option.some.inj (new.symm.trans here))
      exact ordered.earlier id outer before node
    · exact ordered.earlier id outer found ((get?_set_ne same).symm.trans here)
  · by_cases same : id = top
    · subst same
      obtain ⟨rfl, rfl⟩ := SyntaxNode.mk.inj (Option.some.inj (new.symm.trans here))
      obtain ⟨first, model⟩ := ordered.root id before node
      exact ⟨first, (model ▸ revises).model⟩
    · exact ordered.root id found ((get?_set_ne same).symm.trans here)

/-- The nodes of a scope are in descending order and end at the model. -/
theorem Linked.descending (linked : Linked tree scope) (ordered : Ordered tree) :
    scope.Pairwise (· > ·) := by
  -- Each node is after its parent, and so after all those around its parent.
  induction scope with
  | nil => exact .nil
  | cons id scope ih =>
    obtain ⟨⟨construct, here⟩, outer⟩ := linked
    have below := ih outer
    refine List.pairwise_cons.mpr ⟨fun other member => ?_, below⟩
    cases scope with
    | nil => cases member
    | cons parent scope =>
      have earlier := ordered.earlier id parent construct here
      rcases List.mem_cons.mp member with rfl | member
      · exact earlier
      · exact Nat.lt_trans ((List.pairwise_cons.mp below).1 other member) earlier

theorem Linked.getLast? (linked : Linked tree scope) (ordered : Ordered tree)
    (nonempty : scope ≠ []) : scope.getLast? = some 0 ∧ tree.get? 0 = some ⟨none, .model⟩ := by
  induction scope with
  | nil => exact absurd rfl nonempty
  | cons id scope ih =>
    obtain ⟨⟨construct, here⟩, outer⟩ := linked
    cases scope with
    | nil =>
      obtain ⟨rfl, rfl⟩ := ordered.root id construct here
      exact ⟨rfl, here⟩
    | cons parent scope =>
      rw [List.getLast?_cons_cons]
      exact ih outer (List.cons_ne_nil _ _)

/-- What a node is, if it exists. -/
def construct? (tree : SyntaxTree) (id : Nat) : Option Construct :=
  (tree.get? id).map SyntaxNode.construct

/-- The ancestors of a node are the constructs of the scope that begins with it. -/
theorem Linked.chained (linked : Linked tree (id :: scope)) (ordered : Ordered tree) :
    Chained tree id ((id :: scope).filterMap tree.construct?) := by
  induction scope generalizing id with
  | nil =>
    obtain ⟨⟨construct, here⟩, _⟩ := linked
    simpa [construct?, here] using Chained.root here
  | cons parent scope ih =>
    obtain ⟨⟨construct, here⟩, outer⟩ := linked
    rw [List.filterMap_cons_some (b := construct) (by simp [construct?, here])]
    exact .inner here (ordered.earlier id parent construct here) (ih outer)

/-- A node with those around it, outwards to the model. -/
structure Lineage (tree : SyntaxTree) (node : Nat) (scope : List Nat) : Prop where
  innermost : scope.head? = some node
  linked : tree.Linked scope
  ancestors : tree.ancestors node = scope.filterMap tree.construct?
  descending : scope.Pairwise (· > ·)
  last : scope.getLast? = some 0
  model : tree.get? 0 = some ⟨none, .model⟩

theorem Linked.lineage (linked : Linked tree (id :: scope)) (ordered : Ordered tree) :
    Lineage tree id (id :: scope) := by
  obtain ⟨last, model⟩ := linked.getLast? ordered (List.cons_ne_nil _ _)
  exact ⟨rfl, linked, (linked.chained ordered).ancestors_eq, linked.descending ordered, last, model⟩

theorem Chained.exists_linked {around : List Construct} (chained : Chained tree id around) :
    ∃ outer, Linked tree (id :: outer) := by
  induction chained with
  | root here => exact ⟨[], ⟨_, here⟩, trivial⟩
  | @inner _ parent construct _ here _ _ ih =>
    obtain ⟨outer, linked⟩ := ih
    exact ⟨parent :: outer, ⟨construct, here⟩, linked⟩

theorem Ordered.pushTrail {around : List Construct} (ordered : Ordered tree)
    (chained : Chained tree top around) (trail : List Construct) :
    Ordered (tree.pushTrail top trail).1 := by
  induction trail with
  | nil => exact ordered
  | cons construct trail ih => exact ih.push (chained_pushTrail trail chained).lt_size

/-- The name of a node. -/
def name? (tree : SyntaxTree) (id : Nat) : Option String :=
  (tree.construct? id).bind Construct.name?

/-- The nearest name is that of the innermost node of a scope that has one. -/
theorem Linked.nearestName? (linked : Linked tree (id :: scope)) (ordered : Ordered tree) :
    tree.nearestName? id =
      ((id :: scope).find? fun other => (tree.name? other).isSome).bind tree.name? := by
  have innermost (ids : List Nat) :
      (ids.filterMap tree.construct?).findSome? Construct.name? =
        (ids.find? fun other => (tree.name? other).isSome).bind tree.name? := by
    induction ids with
    | nil => rfl
    | cons id ids ih =>
      rw [List.find?_cons]
      cases here : tree.construct? id with
      | none =>
        have nameless : tree.name? id = none := by rw [name?, here]; rfl
        rw [List.filterMap_cons_none here, ih, nameless]
        rfl
      | some construct =>
        have same : tree.name? id = construct.name? := by rw [name?, here]; rfl
        rw [List.filterMap_cons_some here, List.findSome?_cons, same]
        cases named : construct.name? with
        | none => exact ih
        | some name => exact (same.trans named).symm
  rw [SyntaxTree.nearestName?, (linked.chained ordered).ancestors_eq, innermost]

/-- While the tree grows, nodes with names keep having names, and nodes without get none. -/
theorem Grows.isSome_name? (grows : Grows tree tree') (inside : id < tree.size) :
    (tree'.name? id).isSome = (tree.name? id).isSome := by
  obtain ⟨⟨parent, before⟩, here⟩ : ∃ node, tree.get? id = some node :=
    ⟨_, Array.getElem?_eq_getElem inside⟩
  obtain ⟨after, there, revises⟩ := grows id parent before here
  have old : tree.name? id = before.name? := by rw [name?, construct?, here]; rfl
  have new : tree'.name? id = after.name? := by rw [name?, construct?, there]; rfl
  rw [old, new, revises.isSome_name?]

end SyntaxTree

end Attest
