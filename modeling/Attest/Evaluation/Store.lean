import Attest.Document.Node
/-!
# Variables

A store binds names to nodes. Its entries are in the order of their names, so stores with the same
bindings are equal.
-/

namespace Attest

structure Binding where
  nodes : List Node
  deriving Repr, Inhabited

namespace Binding

/-- The node of a binding that has one only. -/
def single? (b : Binding) : Option Node :=
  match b.nodes with
  | [node] => some node
  | _ => none

/-- A single node as itself, others as a sequence. -/
def value (b : Binding) : Node :=
  .ofNodes b.nodes

end Binding

inductive DeclarationError
  | duplicateName (name : String)
  /-- The text of the path that leads nowhere. -/
  | unresolved (name path : String)
  deriving DecidableEq, Repr

namespace DeclarationError

def message : DeclarationError → String
  | duplicateName name => "variable '" ++ name ++ "' is already declared"
  | unresolved name path =>
    "declaration of '" ++ name ++ "' failed: path '" ++ path ++ "' matched nothing"

end DeclarationError

namespace Store

/-- Entries with one more, before the first whose name is greater and instead of one of its name. -/
def insertEntry (name : String) (binding : Binding) :
    List (String × Binding) → List (String × Binding)
  | [] => [(name, binding)]
  | entry :: rest =>
    if name < entry.1 then (name, binding) :: entry :: rest
    else if name = entry.1 then (name, binding) :: rest
    else entry :: insertEntry name binding rest

/-- Names grow along the entries. -/
def Sorted (entries : List (String × Binding)) : Prop :=
  entries.Pairwise fun a b => a.1 < b.1

theorem fst_of_mem_insertEntry {name : String} {binding : Binding}
    {entries : List (String × Binding)} {entry : String × Binding}
    (h : entry ∈ insertEntry name binding entries) : entry.1 = name ∨ entry ∈ entries := by
  induction entries with
  | nil => simp_all [insertEntry]
  | cons first rest ih =>
    unfold insertEntry at h
    split at h
    · rcases List.mem_cons.mp h with rfl | h
      · exact .inl rfl
      · exact .inr h
    · split at h
      · rcases List.mem_cons.mp h with rfl | h
        · exact .inl rfl
        · exact .inr (List.mem_cons_of_mem _ h)
      · rcases List.mem_cons.mp h with rfl | h
        · exact .inr List.mem_cons_self
        · exact (ih h).imp_right (List.mem_cons_of_mem _)

theorem sorted_insertEntry {name : String} {binding : Binding} {entries : List (String × Binding)}
    (h : Sorted entries) : Sorted (insertEntry name binding entries) := by
  unfold Sorted at h
  induction entries with
  | nil => exact List.pairwise_singleton _ _
  | cons first rest ih =>
    have hp := List.pairwise_cons.mp h
    unfold insertEntry
    split
    next less =>
      refine List.pairwise_cons.mpr ⟨fun entry member => ?_, h⟩
      rcases List.mem_cons.mp member with rfl | member
      · exact less
      · exact String.lt_trans less (hp.1 entry member)
    next notLess =>
      split
      next same =>
        subst same
        exact List.pairwise_cons.mpr ⟨hp.1, hp.2⟩
      next different =>
        refine List.pairwise_cons.mpr ⟨fun entry member => ?_, ih hp.2⟩
        rcases fst_of_mem_insertEntry member with same | member
        · rw [same]
          have le : first.1 ≤ name := String.not_lt.mp notLess
          rcases Std.le_iff_lt_or_eq.mp le with less | same
          · exact less
          · exact absurd same.symm different
        · exact hp.1 entry member

end Store

structure Store where
  entries : List (String × Binding)
  sorted : Store.Sorted entries

namespace Store

def empty : Store := ⟨[], List.Pairwise.nil⟩

instance : Inhabited Store := ⟨empty⟩

def size (s : Store) : Nat :=
  s.entries.length

def isEmpty (s : Store) : Bool :=
  s.entries.isEmpty

def get? (s : Store) (name : String) : Option Binding :=
  s.entries.lookup name

def contains (s : Store) (name : String) : Bool :=
  (s.get? name).isSome

/-- Binds a name, which may be bound already. -/
def put (s : Store) (name : String) (binding : Binding) : Store :=
  ⟨insertEntry name binding s.entries, sorted_insertEntry s.sorted⟩

def remove (s : Store) (name : String) : Store :=
  ⟨s.entries.filter fun entry => entry.1 != name, List.Pairwise.filter _ s.sorted⟩

/-- Binds a name that is not bound yet. -/
def declare (s : Store) (name : String) (binding : Binding) : Except DeclarationError Store :=
  if s.contains name then .error (.duplicateName name) else .ok (s.put name binding)

end Store

end Attest
