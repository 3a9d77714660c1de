import Attest.Document.Node
/-!
# Trees of nodes

Induction over nodes, and the scalars at any depth of a node.
-/

namespace Attest

namespace Node

/-- Induction in which a property holds of a collection because it holds of each part. -/
@[elab_as_elim, induction_eliminator]
theorem induct {motive : Node → Prop} (null : motive .null) (boolean : ∀ b, motive (.boolean b))
    (integer : ∀ n, motive (.integer n)) (float : ∀ x, motive (.float x))
    (string : ∀ s, motive (.string s))
    (sequence : ∀ items, (∀ item ∈ items, motive item) → motive (.sequence items))
    (mapping : ∀ entries, (∀ entry ∈ entries, motive entry.2) → motive (.mapping entries))
    (node : Node) : motive node := by
  refine @Node.rec motive (fun items => ∀ item ∈ items, motive item)
    (fun entries => ∀ entry ∈ entries, motive entry.2) (fun entry => motive entry.2)
    null boolean integer float string sequence mapping ?_ ?_ ?_ ?_ ?_ node
  · simp
  · intro first rest here later
    exact List.forall_mem_cons.mpr ⟨here, later⟩
  · simp
  · intro first rest here later
    exact List.forall_mem_cons.mpr ⟨here, later⟩
  · intro key value here
    exact here

mutual

/-- The scalars of a node from left to right. -/
def scalars : Node → List Node
  | sequence items => scalarsOf items
  | mapping entries => scalarsUnder entries
  | node => [node]

def scalarsOf : List Node → List Node
  | [] => []
  | item :: rest => scalars item ++ scalarsOf rest

def scalarsUnder : List (String × Node) → List Node
  | [] => []
  | (_, value) :: rest => scalars value ++ scalarsUnder rest

end

theorem mem_scalarsOf {scalar : Node} {items : List Node} :
    scalar ∈ scalarsOf items ↔ ∃ item ∈ items, scalar ∈ item.scalars := by
  induction items with
  | nil => simp [scalarsOf]
  | cons item rest ih => simp [scalarsOf, ih]

theorem mem_scalarsUnder {scalar : Node} {entries : List (String × Node)} :
    scalar ∈ scalarsUnder entries ↔ ∃ entry ∈ entries, scalar ∈ entry.2.scalars := by
  induction entries with
  | nil => simp [scalarsUnder]
  | cons entry rest ih => simp [scalarsUnder, ih]

/-! ### Properties of all scalars -/

/-- The property holds of each scalar at any depth. -/
def Throughout (property : Node → Prop) (node : Node) : Prop :=
  ∀ scalar ∈ node.scalars, property scalar

variable {property : Node → Prop}

theorem throughout_scalar {a : Node} (scalar : a.scalars = [a]) :
    a.Throughout property ↔ property a := by
  rw [Throughout, scalar]
  simp

theorem throughout_sequence {items : List Node} :
    (sequence items).Throughout property ↔ ∀ item ∈ items, item.Throughout property := by
  unfold Throughout
  rw [scalars]
  constructor
  · intro each item member scalar inside
    exact each scalar (mem_scalarsOf.mpr ⟨item, member, inside⟩)
  · intro each scalar inside
    obtain ⟨item, member, inside⟩ := mem_scalarsOf.mp inside
    exact each item member scalar inside

theorem throughout_mapping {entries : List (String × Node)} :
    (mapping entries).Throughout property ↔ ∀ entry ∈ entries, entry.2.Throughout property := by
  unfold Throughout
  rw [scalars]
  constructor
  · intro each entry member scalar inside
    exact each scalar (mem_scalarsUnder.mpr ⟨entry, member, inside⟩)
  · intro each scalar inside
    obtain ⟨entry, member, inside⟩ := mem_scalarsUnder.mp inside
    exact each entry member scalar inside

end Node

end Attest
