import Attest.Document.Resolution
/-!
# Composition of paths

A path leads where its second part leads from the nodes of its first. The parts may not be a field
and an index that count as one lookup. From several nodes it leads where it leads from each.
-/

namespace Attest

variable {nodes : List Node} {step : Step} {path rest : Path}

theorem step_field (node : Node) (key : String) : node.step (.field key) = node.getAll key := by
  cases node <;> rfl

/-- A field that ends the first path and an index that begins the second are one lookup. -/
def Straddles (first second : Path) : Prop :=
  ∃ init key position rest, first = init ++ [.field key] ∧ second = .index position :: rest

theorem not_straddles_of_head (apart : ∀ position rest, path ≠ .index position :: rest)
    (first : Path) : ¬ Straddles first path := by
  rintro ⟨_, _, position, rest, _, second⟩
  exact apart position rest second

/-- A step that makes no lookup with the next one is taken from each node. -/
theorem resolveNodes_cons (apart : ¬ Straddles [step] rest) :
    resolveNodes nodes (step :: rest) =
      resolveNodes (nodes.flatMap fun node => node.step step) rest := by
  rw [resolveNodes]
  intro key position others field index
  exact apart ⟨[], key, position, others, by rw [field, List.nil_append], index⟩

/-- A field and the index after it are one lookup in each node. -/
theorem resolveNodes_lookup (key : String) (position : Nat) :
    resolveNodes nodes (.field key :: .index position :: rest) =
      resolveNodes (nodes.filterMap fun node => node.fieldIndex key position) rest := by
  rw [resolveNodes]

theorem Straddles.cons {first second : Path} (straddles : Straddles first second) :
    Straddles (step :: first) second := by
  obtain ⟨init, key, position, rest, rfl, rfl⟩ := straddles
  exact ⟨step :: init, key, position, rest, rfl, rfl⟩

theorem not_straddles_of_not_lookup
    (notLookup : ∀ key position later, step = .field key → rest = .index position :: later → False) :
    ¬ Straddles [step] rest := by
  rintro ⟨init, key, position, later, field, index⟩
  cases init with
  | nil => exact notLookup key position later (List.cons.inj field).1 index
  | cons first init => simp at field

/-- A path leads where its second part leads from the nodes of its first. -/
theorem resolveNodes_append {second : Path} (apart : ¬ Straddles path second) :
    resolveNodes nodes (path ++ second) = resolveNodes (resolveNodes nodes path) second := by
  fun_induction resolveNodes nodes path with
  | case1 nodes => rfl
  | case2 nodes key position rest ih =>
    rw [List.cons_append, List.cons_append, resolveNodes_lookup]
    exact ih fun straddles => apart straddles.cons.cons
  | case3 nodes step rest notLookup ih =>
    -- An index after the step is in the first path, or begins the second.
    have separate : ¬ Straddles [step] (rest ++ second) := by
      intro straddles
      cases rest with
      | nil => exact apart straddles
      | cons next rest =>
        refine not_straddles_of_not_lookup ?_ straddles
        intro key position others field index
        exact notLookup key position rest field (by rw [(List.cons.inj index).1])
    rw [List.cons_append, resolveNodes_cons separate]
    exact ih fun straddles => apart straddles.cons

/-! ### Several nodes -/

/-- A path leads from each of some nodes on its own. -/
theorem resolveNodes_append_nodes (nodes others : List Node) (path : Path) :
    resolveNodes (nodes ++ others) path = resolveNodes nodes path ++ resolveNodes others path := by
  fun_induction resolveNodes nodes path generalizing others with
  | case1 nodes => rfl
  | case2 nodes key position rest ih =>
    rw [resolveNodes_lookup, resolveNodes_lookup, List.filterMap_append]
    exact ih _
  | case3 nodes step rest notLookup ih =>
    have apart := not_straddles_of_not_lookup notLookup
    rw [resolveNodes_cons apart, resolveNodes_cons apart, List.flatMap_append]
    exact ih _

/-- Paths are resolved node by node and part by part. Where a field ends the first part and an index
begins the second, the two are one lookup in each node that the steps before them lead to. -/
theorem resolveNodes_compositional :
    (∀ (nodes others : List Node) (path : Path),
      resolveNodes (nodes ++ others) path = resolveNodes nodes path ++ resolveNodes others path) ∧
    (∀ (nodes : List Node) (first second : Path), ¬ Straddles first second →
      resolveNodes nodes (first ++ second) = resolveNodes (resolveNodes nodes first) second) ∧
    ∀ (nodes : List Node) (init : Path) (key : String) (position : Nat) (rest : Path),
      resolveNodes nodes ((init ++ [.field key]) ++ (.index position :: rest)) =
        resolveNodes
          ((resolveNodes nodes init).filterMap fun node => node.fieldIndex key position) rest := by
  refine ⟨resolveNodes_append_nodes, fun _ _ _ apart => resolveNodes_append apart, ?_⟩
  intro nodes init key position rest
  have apart : ¬ Straddles init (.field key :: .index position :: rest) :=
    not_straddles_of_head (by simp) init
  rw [List.append_assoc, List.singleton_append, resolveNodes_append apart, resolveNodes_lookup]

/-- A key that is repeated, with lists under it. -/
def Node.twoLists : Node :=
  .mapping [("a", .sequence [.integer 1, .integer 2]), ("a", .sequence [.integer 3])]

/-- Behind a lookup an index is a step of its own. -/
theorem resolveNodes_compositional_twoLists :
    let first : Path := [.field "a", .index 0]
    let second : Path := [.index 1]
    ¬ Straddles first second ∧
      resolveNodes [Node.twoLists] (first ++ second) =
        resolveNodes (resolveNodes [Node.twoLists] first) second ∧
      resolveNodes (resolveNodes [Node.twoLists] first) second = [.integer 2] := by
  intro first second
  have apart : ¬ Straddles first second := by
    rintro ⟨init, key, position, rest, field, index⟩
    have last := congrArg List.getLast? field
    simp [first] at last
  exact ⟨apart, resolveNodes_compositional.2.1 [Node.twoLists] first second apart, rfl⟩

/-- Right behind the field an index counts the lists, and behind the lists their items. -/
example :
    resolveNodes [Node.twoLists] ([.field "a"] ++ [.index 1]) = [.sequence [.integer 3]] ∧
      resolveNodes (resolveNodes [Node.twoLists] [.field "a"]) [.index 1] = [.integer 2] :=
  ⟨rfl, rfl⟩

end Attest
