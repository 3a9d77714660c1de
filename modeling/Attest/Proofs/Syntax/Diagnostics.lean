import Attest.Syntax.Grammar
/-!
# Reports of failures

Each failure is reported on its own: the report of a source is the list of the reports of its
failures, and the tree that errors point into adds nothing to them.
-/

namespace Attest

/-- What is reported of a failure. Its token is the innermost construct around it with a name. -/
def Failure.report (f : Failure) : Diagnostic :=
  ⟨f.fault.message, max f.line 1, (f.trail.findSome? Construct.name?).getD Diagnostic.rootToken⟩

namespace SyntaxTree

/-- The construct of a node and those around it, up to a node that has none around it. Constructs
are added after those around them. -/
inductive Chained (tree : SyntaxTree) : Nat → List Construct → Prop
  | root {id : Nat} {construct : Construct} (here : tree.get? id = some ⟨none, construct⟩) :
      Chained tree id [construct]
  | inner {id parent : Nat} {construct : Construct} {around : List Construct}
      (here : tree.get? id = some ⟨some parent, construct⟩) (earlier : parent < id)
      (outer : Chained tree parent around) : Chained tree id (construct :: around)

variable {tree : SyntaxTree} {id : Nat} {around : List Construct}

theorem Chained.lt_size (chained : Chained tree id around) : id < tree.size := by
  cases chained with
  | root here => exact (Array.getElem?_eq_some_iff.mp here).1
  | inner here => exact (Array.getElem?_eq_some_iff.mp here).1

theorem Chained.chain_eq (chained : Chained tree id around) {limit : Nat} (enough : id < limit) :
    tree.chain limit id = around := by
  induction chained generalizing limit with
  | root here =>
    obtain ⟨less, rfl⟩ : ∃ less, limit = less + 1 := ⟨limit - 1, by omega⟩
    simp only [chain, here, Option.map_none, Option.getD_none]
  | inner here earlier _ ih =>
    obtain ⟨less, rfl⟩ : ∃ less, limit = less + 1 := ⟨limit - 1, by omega⟩
    simp only [chain, here, Option.map_some, Option.getD_some]
    rw [ih (by omega)]

theorem Chained.ancestors_eq (chained : Chained tree id around) : tree.ancestors id = around :=
  chained.chain_eq chained.lt_size

theorem get?_push_of_lt {parent : Option Nat} {construct : Construct} (before : id < tree.size) :
    (tree.push parent construct).get? id = tree.get? id :=
  Array.getElem?_push_lt before |>.trans (Array.getElem?_eq_getElem before).symm

theorem get?_push_size {parent : Option Nat} {construct : Construct} :
    (tree.push parent construct).get? tree.size = some ⟨parent, construct⟩ :=
  Array.getElem?_push_size

theorem Chained.push {parent : Option Nat} {construct : Construct}
    (chained : Chained tree id around) : Chained (tree.push parent construct) id around := by
  induction chained with
  | root here =>
    have before := (Chained.root here).lt_size
    exact .root ((get?_push_of_lt before).trans here)
  | inner here earlier outer ih =>
    have before := (Chained.inner here earlier outer).lt_size
    exact .inner ((get?_push_of_lt before).trans here) earlier ih

theorem Chained.pushTrail {parent : Nat} (trail : List Construct)
    (chained : Chained tree id around) : Chained (tree.pushTrail parent trail).1 id around := by
  induction trail with
  | nil => exact chained
  | cons construct trail ih => exact ih.push

theorem chained_pushTrail {parent : Nat} (trail : List Construct)
    (chained : Chained tree parent around) :
    Chained (tree.pushTrail parent trail).1 (tree.pushTrail parent trail).2 (trail ++ around) := by
  induction trail with
  | nil => exact chained
  | cons construct trail ih => exact .inner get?_push_size ih.lt_size ih.push

end SyntaxTree

namespace SyntaxErrors

open SyntaxTree

/-- The model is the first node, and every error points at a node within it. -/
structure Rooted (e : SyntaxErrors) : Prop where
  root : Chained e.tree 0 [.model]
  errors : ∀ error ∈ e.errors, ∃ around, Chained e.tree error.node around

theorem diagnose_eq {tree : SyntaxTree} {error : SyntaxError} {around : List Construct}
    (chained : Chained tree error.node around) :
    tree.diagnose error = ⟨error.message, max error.line 1,
      (around.findSome? Construct.name?).getD Diagnostic.rootToken⟩ := by
  rw [diagnose, nearestName?, chained.ancestors_eq]

theorem Rooted.add {e : SyntaxErrors} (rooted : e.Rooted) (f : Failure) :
    (e.add f).Rooted ∧ (e.add f).diagnostics = e.diagnostics ++ [f.report] := by
  have added := chained_pushTrail f.trail rooted.root
  -- Later nodes leave the earlier ones as they are, so earlier errors keep their reports.
  refine ⟨⟨rooted.root.pushTrail f.trail, fun error member => ?_⟩, ?_⟩
  · rcases List.mem_append.mp member with before | last
    · obtain ⟨around, chained⟩ := rooted.errors error before
      exact ⟨around, chained.pushTrail f.trail⟩
    · obtain rfl := List.mem_singleton.mp last
      exact ⟨_, added⟩
  · have kept : ∀ error ∈ e.errors,
        (e.tree.pushTrail 0 f.trail).1.diagnose error = e.tree.diagnose error := by
      intro error member
      obtain ⟨around, chained⟩ := rooted.errors error member
      rw [diagnose_eq chained, diagnose_eq (chained.pushTrail f.trail)]
    have new : (e.tree.pushTrail 0 f.trail).1.diagnose
        ⟨f.fault.message, f.line, (e.tree.pushTrail 0 f.trail).2⟩ = f.report := by
      rw [diagnose_eq added, List.findSome?_append]
      simp [Failure.report, Construct.name?]
    simp only [diagnostics, SyntaxErrors.add, List.map_append, List.map_cons, List.map_nil, new,
      List.map_congr_left kept]

theorem diagnostics_foldl_add {e : SyntaxErrors} (rooted : e.Rooted) (failures : List Failure) :
    (failures.foldl add e).diagnostics = e.diagnostics ++ failures.map Failure.report := by
  induction failures generalizing e with
  | nil => rw [List.foldl_nil, List.map_nil, List.append_nil]
  | cons f failures ih =>
    obtain ⟨next, reports⟩ := rooted.add f
    rw [List.foldl_cons, ih next, reports, List.map_cons, List.append_assoc, List.singleton_append]

theorem diagnostics_ofFailures (failures : List Failure) :
    (ofFailures failures).diagnostics = failures.map Failure.report := by
  have rooted : Rooted ⟨[], SyntaxTree.push {} none .model⟩ := ⟨.root rfl, by simp⟩
  exact diagnostics_foldl_add rooted failures

end SyntaxErrors

end Attest
