import Attest.Proofs.Syntax.Recorder
import Attest.Proofs.Syntax.Scopes
/-!
# Points of a parse

What one step of a parse can do to the tree, the open constructs and the errors, and what follows
for every point of a run of such steps.
-/

namespace Attest

namespace Recorder

/-- The points of a parse, the latest first, and what can come next. Constructs are added within the
innermost open one, which is the only one that is closed; for negations and groups there has to be
room. An error is recorded within it, or within
a construct that was closed in the step before. -/
inductive Run : List Point → Prop
  | opened (lexemes : List Lexeme) :
      Run [Point.enter .model { ahead := lexemes }, { ahead := lexemes }]
  | advance {p : Point} {past : List Point} (run : Run (p :: past)) : Run (p.advance :: p :: past)
  | overwrite {p : Point} {past : List Point} (t : Token) (run : Run (p :: past)) :
      Run (p.overwrite t :: p :: past)
  | declare {p : Point} {past : List Point} (name : String) (run : Run (p :: past)) :
      Run (p.declare name :: p :: past)
  | enter {p : Point} {past : List Point} {top : Nat} (construct : Construct)
      (run : Run (p :: past)) (innermost : p.scope.head? = some top)
      (room : construct.Nests → p.scope.length ≤ maxNesting) : Run (p.enter construct :: p :: past)
  | leave {p : Point} {past : List Point} {id : Nat} {parent : Option Nat} {before : Construct}
      (after : Construct) (run : Run (p :: past)) (innermost : p.scope.head? = some id)
      (node : p.tree.get? id = some ⟨parent, before⟩) (revises : before.Revises after) :
      Run (p.leave id after :: p :: past)
  | record {p : Point} {past : List Point} (e : SyntaxError) (run : Run (p :: past))
      (innermost : p.scope.head? = some e.node) : Run (p.record e :: p :: past)
  | late {p last : Point} {past : List Point} (e : SyntaxError) (run : Run (p :: last :: past))
      (completed : last.scope = e.node :: p.scope) : Run (p.record e :: p :: last :: past)

/-- The open constructs are within one another, and the nodes in order. -/
structure Point.Scoped (p : Point) : Prop where
  linked : p.tree.Linked p.scope
  ordered : p.tree.Ordered

/-- No more than the greatest nesting of constructs are around an open negation or group. -/
def Point.Shallow (p : Point) : Prop :=
  ∀ id outer construct, (id :: outer) <:+ p.scope → p.tree.construct? id = some construct →
    construct.Nests → outer.length ≤ maxNesting

/-- The error was recorded right after the point `before`, for the first node of the scope: that of
the constructs that were open, or that of a construct that had just been completed. -/
inductive Recording (e : SyntaxError) (before : Point) : List Nat → List Point → Prop
  | innermost {after : Point} {past : List Point} (added : after.errors = before.errors ++ [e])
      (here : before.scope.head? = some e.node) :
      Recording e before before.scope (after :: before :: past)
  | completed {after last : Point} {past : List Point}
      (added : after.errors = before.errors ++ [e]) (here : last.scope = e.node :: before.scope) :
      Recording e before last.scope (after :: before :: last :: past)
  | earlier {p : Point} {scope : List Nat} {past : List Point}
      (recording : Recording e before scope past) : Recording e before scope (p :: past)

variable {p q : Point} {past points : List Point} {e : SyntaxError}

theorem Point.enter_tree {top : Nat} {construct : Construct}
    (innermost : p.scope.head? = some top) :
    (p.enter construct).tree = p.tree.push (some top) construct := by
  rw [enter, innermost]

theorem Point.leave_scope {id : Nat} {construct : Construct}
    (innermost : p.scope.head? = some id) : (p.leave id construct).scope = p.scope.tail := by
  simp only [leave, innermost, if_true]

namespace Run

theorem ordered_opened : (SyntaxTree.push {} none .model).Ordered := by
  have only : ∀ {id : Nat} {node : SyntaxNode},
      (SyntaxTree.push {} none .model).get? id = some node → id = 0 ∧ node = ⟨none, .model⟩ := by
    intro id node here
    rcases SyntaxTree.get?_push_cases here with here | new
    · cases here
    · exact new
  refine ⟨fun id parent construct here => ?_, fun id construct here => ?_⟩
  · cases (only here).2
  · obtain ⟨first, same⟩ := only here
    exact ⟨first, (SyntaxNode.mk.inj same).2⟩

theorem points_scoped (run : Run points) : ∀ p ∈ points, p.Scoped := by
  induction run with
  | opened lexemes =>
    intro p member
    rcases List.mem_cons.mp member with rfl | member
    · exact ⟨⟨⟨.model, rfl⟩, trivial⟩, ordered_opened⟩
    · obtain rfl := List.mem_singleton.mp member
      refine ⟨trivial, fun _ _ _ here => ?_, fun _ _ here => ?_⟩
      · cases here
      · cases here
  | advance _ ih | overwrite _ _ ih | declare _ _ ih | record _ _ _ ih | late _ _ _ ih =>
    refine List.forall_mem_cons.mpr ⟨?_, ih⟩
    have before := ih _ List.mem_cons_self
    exact ⟨before.linked, before.ordered⟩
  | @enter p past top construct _ innermost _ ih =>
    refine List.forall_mem_cons.mpr ⟨?_, ih⟩
    have before := ih _ List.mem_cons_self
    have inside := before.linked.lt_size (List.mem_of_head? innermost)
    refine ⟨⟨⟨construct, SyntaxTree.get?_push_size⟩,
      before.linked.grows (SyntaxTree.grows_push _ _)⟩, ?_⟩
    rw [Point.enter_tree innermost]
    exact before.ordered.push inside
  | @leave p past id _ _ after _ innermost node revises ih =>
    refine List.forall_mem_cons.mpr ⟨?_, ih⟩
    have before := ih _ List.mem_cons_self
    obtain ⟨outer, scope⟩ : ∃ outer, p.scope = id :: outer := List.head?_eq_some_iff.mp innermost
    have linked := before.linked
    rw [scope] at linked
    refine ⟨?_, before.ordered.set node revises⟩
    rw [Point.leave_scope innermost, scope]
    exact linked.2.grows (SyntaxTree.grows_set node revises)

theorem grows (run : Run (p :: past)) : ∀ q ∈ past, q.tree.Grows p.tree := by
  generalize same : p :: past = points at run
  induction run generalizing p past with
  | opened lexemes =>
    cases same
    intro q member
    obtain rfl := List.mem_singleton.mp member
    intro _ _ _ here
    cases here
  | @advance before _ _ ih | @overwrite before _ _ _ ih | @declare before _ _ _ ih
  | @record before _ _ _ _ ih | @late before _ _ _ _ _ ih =>
    cases same
    exact List.forall_mem_cons.mpr ⟨.refl before.tree, ih (p := before) rfl⟩
  | @enter before _ _ construct _ _ _ ih =>
    cases same
    have step : before.tree.Grows (before.enter construct).tree := SyntaxTree.grows_push _ _
    exact List.forall_mem_cons.mpr ⟨step, fun q member => (ih rfl q member).trans step⟩
  | leave after _ _ node revises ih =>
    cases same
    have step := SyntaxTree.grows_set node revises
    exact List.forall_mem_cons.mpr ⟨step, fun q member => (ih rfl q member).trans step⟩

/-- Each error of a point was recorded on the way to it. -/
theorem recording (run : Run (p :: past)) :
    ∀ e ∈ p.errors, ∃ before scope, Recording e before scope (p :: past) := by
  generalize same : p :: past = points at run
  induction run generalizing p past with
  | opened lexemes =>
    cases same
    intro e member
    cases member
  | advance _ ih | overwrite _ _ ih | declare _ _ ih | enter _ _ _ _ ih | leave _ _ _ _ _ ih =>
    cases same
    intro e member
    obtain ⟨before, scope, recording⟩ := ih rfl e member
    exact ⟨before, scope, .earlier recording⟩
  | record new _ innermost ih =>
    cases same
    intro e member
    rcases List.mem_append.mp member with member | member
    · obtain ⟨before, scope, recording⟩ := ih rfl e member
      exact ⟨before, scope, .earlier recording⟩
    · obtain rfl := List.mem_singleton.mp member
      exact ⟨_, _, .innermost rfl innermost⟩
  | late new _ completed ih =>
    cases same
    intro e member
    rcases List.mem_append.mp member with member | member
    · obtain ⟨before, scope, recording⟩ := ih rfl e member
      exact ⟨before, scope, .earlier recording⟩
    · obtain rfl := List.mem_singleton.mp member
      exact ⟨_, _, .completed rfl completed⟩

theorem points_shallow (run : Run points) : ∀ p ∈ points, p.Shallow := by
  induction run with
  | opened lexemes =>
    intro p member id outer construct within here nests
    rcases List.mem_cons.mp member with rfl | member
    · obtain rfl : id = 0 := List.mem_singleton.mp (within.subset List.mem_cons_self)
      obtain rfl : construct = .model := (Option.some.inj here).symm
      exact nests.elim
    · obtain rfl := List.mem_singleton.mp member
      exact absurd (List.suffix_nil.mp within) (List.cons_ne_nil _ _)
  | advance _ ih | overwrite _ _ ih | declare _ _ ih | record _ _ _ ih | late _ _ _ ih =>
    have before := ih _ List.mem_cons_self
    exact List.forall_mem_cons.mpr ⟨before, ih⟩
  | @enter p past top before run innermost room ih =>
    refine List.forall_mem_cons.mpr ⟨fun id outer construct within here nests => ?_, ih⟩
    have linked := (run.points_scoped p List.mem_cons_self).linked
    rcases List.suffix_cons_iff.mp within with whole | within
    · obtain ⟨rfl, rfl⟩ := List.cons.inj whole
      have new : (p.enter before).tree.construct? p.tree.size = some before :=
        congrArg (Option.map SyntaxNode.construct) SyntaxTree.get?_push_size
      obtain rfl := Option.some.inj (new.symm.trans here)
      exact room nests
    · have inside := linked.lt_size (within.subset List.mem_cons_self)
      have same : (p.enter before).tree.construct? id = p.tree.construct? id :=
        congrArg (Option.map SyntaxNode.construct) (SyntaxTree.get?_push_of_lt inside)
      exact ih p List.mem_cons_self id outer construct within (same ▸ here) nests
  | @leave p past top parent before after _ innermost node revises ih =>
    refine List.forall_mem_cons.mpr ⟨fun id outer construct within here nests => ?_, ih⟩
    rw [Point.leave_scope innermost] at within
    have within := within.trans (List.tail_suffix _)
    by_cases same : id = top
    · subst same
      have new : (p.leave id after).tree.construct? id = some after := by
        show ((p.tree.set id after).get? id).map _ = _
        rw [SyntaxTree.get?_set_self, node]
        rfl
      obtain rfl := Option.some.inj (new.symm.trans here)
      have old : p.tree.construct? id = some before := by rw [SyntaxTree.construct?, node]; rfl
      exact ih p List.mem_cons_self id outer before within old (revises.nests nests)
    · have old : (p.leave top after).tree.construct? id = p.tree.construct? id :=
        congrArg (Option.map SyntaxNode.construct) (SyntaxTree.get?_set_ne same)
      exact ih p List.mem_cons_self id outer construct within (old ▸ here) nests

theorem exhausted (run : Run points) : ∀ p ∈ points, p.exhausted = false := by
  induction run with
  | opened lexemes => exact List.forall_mem_cons.mpr ⟨rfl, List.forall_mem_singleton.mpr rfl⟩
  | advance _ ih | overwrite _ _ ih | declare _ _ ih | enter _ _ _ _ ih | leave _ _ _ _ _ ih
  | record _ _ _ ih | late _ _ _ ih =>
    have before := ih _ List.mem_cons_self
    exact List.forall_mem_cons.mpr ⟨before, ih⟩

/-- No token comes back. -/
theorem ahead_length_le (run : Run points) :
    points.Pairwise fun later earlier => later.ahead.length ≤ earlier.ahead.length := by
  have further {p q : Point} {past : List Point} (shorter : q.ahead.length ≤ p.ahead.length)
      (ih : (p :: past).Pairwise fun later earlier => later.ahead.length ≤ earlier.ahead.length) :
      (q :: p :: past).Pairwise fun later earlier => later.ahead.length ≤ earlier.ahead.length := by
    refine List.pairwise_cons.mpr ⟨List.forall_mem_cons.mpr ⟨shorter, fun r member => ?_⟩, ih⟩
    exact Nat.le_trans shorter ((List.pairwise_cons.mp ih).1 r member)
  induction run with
  | opened lexemes => exact further (Nat.le_refl _) (List.pairwise_singleton _ _)
  | advance _ ih => exact further (List.tail_suffix _).length_le ih
  | overwrite _ _ ih => exact further (Nat.le_of_eq List.length_modifyHead) ih
  | declare _ _ ih | enter _ _ _ _ ih | leave _ _ _ _ _ ih | record _ _ _ ih | late _ _ _ ih =>
    exact further (Nat.le_refl _) ih

theorem tail (run : Run (p :: past)) (more : 1 < past.length) : Run past := by
  cases run with
  | opened => exact absurd more (Nat.lt_irrefl 1)
  | advance run | overwrite _ run | declare _ run | enter _ run | leave _ run | record _ run
  | late _ run => exact run

end Run

namespace Recording

variable {before : Point} {scope : List Nat}

theorem two_le_length (recording : Recording e before scope points) : 2 ≤ points.length := by
  induction recording with
  | innermost | completed => simp
  | earlier _ ih => exact Nat.le_succ_of_le ih

/-- The scope of a recorded error is a node of the tree with all those around it. -/
theorem linked (recording : Recording e before scope points) (run : Run points) :
    before ∈ points ∧ scope.head? = some e.node ∧ before.tree.Linked scope := by
  induction recording with
  | @innermost after past _ here =>
    have member : before ∈ after :: before :: past :=
      List.mem_cons_of_mem _ List.mem_cons_self
    exact ⟨member, here, (run.points_scoped before member).linked⟩
  | @completed _ last past _ here =>
    have inner : Run (before :: last :: past) := run.tail (by simp)
    refine ⟨List.mem_cons_of_mem _ List.mem_cons_self, by rw [here]; rfl, ?_⟩
    have member : last ∈ last :: past := List.mem_cons_self
    have linked := (inner.points_scoped last (List.mem_cons_of_mem _ member)).linked
    exact linked.grows (inner.grows last member)
  | earlier recording ih =>
    obtain ⟨member, rest⟩ := ih (run.tail recording.two_le_length)
    exact ⟨List.mem_cons_of_mem _ member, rest⟩

end Recording

end Recorder

end Attest
