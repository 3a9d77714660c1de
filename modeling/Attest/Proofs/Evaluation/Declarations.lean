import Attest.Evaluation.Declare
import Attest.Evaluation.Store.Lemmas
/-!
# Bound declarations

What each name is bound to once declarations are bound.
-/

namespace Attest

namespace Store

variable {s after : Store} {document : Node} {declarations : List Declaration}

theorem declare_eq_ok {name : String} {binding : Binding}
    (declared : s.declare name binding = .ok after) :
    s.get? name = none ∧ after = s.put name binding := by
  unfold declare at declared
  split at declared
  · cases declared
  · next free =>
    cases declared
    refine ⟨?_, rfl⟩
    simpa [contains] using free

/-- One declaration that is bound: its path leads somewhere, and its name is new. -/
theorem bind_cons {d : Declaration} {rest : List Declaration}
    (bound : (s.bind document (d :: rest)).error = none) :
    s.get? d.name = none ∧
      (s.bind document (d :: rest)).store =
        ((s.put d.name ⟨document.resolve d.path⟩).bind document rest).store ∧
      ((s.put d.name ⟨document.resolve d.path⟩).bind document rest).error = none := by
  rw [bind] at bound ⊢
  split at bound
  · cases bound
  · next nodes _ =>
    dsimp only at bound ⊢
    cases declared : s.declare d.name ⟨document.resolve d.path⟩ with
    | error error =>
      rw [declared] at bound
      cases bound
    | ok after =>
      obtain ⟨free, rfl⟩ := declare_eq_ok declared
      rw [declared] at bound
      exact ⟨free, rfl, bound⟩

theorem ne_nil_of_bind (bound : (s.bind document declarations).error = none) :
    ∀ d ∈ declarations, document.resolve d.path ≠ [] := by
  induction declarations generalizing s with
  | nil => simp
  | cons first rest ih =>
    refine List.forall_mem_cons.mpr ⟨fun nowhere => ?_, ih (bind_cons bound).2.2⟩
    simp [bind, nowhere] at bound

theorem get?_of_bind (bound : (s.bind document declarations).error = none) :
    ∀ d ∈ declarations, s.get? d.name = none := by
  induction declarations generalizing s with
  | nil => simp
  | cons first rest ih =>
    obtain ⟨free, _, later⟩ := bind_cons bound
    refine List.forall_mem_cons.mpr ⟨free, fun d member => ?_⟩
    have absent := ih later d member
    rw [get?_put] at absent
    split at absent
    · cases absent
    · exact absent

/-- A name is bound to the nodes of its declaration, and others are bound as before. -/
theorem get?_bind (bound : (s.bind document declarations).error = none) (name : String) :
    (s.bind document declarations).store.get? name =
      match declarations.find? fun d => d.name = name with
      | some d => some ⟨document.resolve d.path⟩
      | none => s.get? name := by
  induction declarations generalizing s with
  | nil => rfl
  | cons first rest ih =>
    obtain ⟨free, same, later⟩ := bind_cons bound
    rw [same, ih later, List.find?_cons]
    by_cases here : first.name = name
    · have absent : rest.find? (fun d => d.name = name) = none := by
        rw [List.find?_eq_none]
        intro d member named
        have free := get?_of_bind later d member
        rw [get?_put, if_pos] at free
        · cases free
        · rw [here]
          exact of_decide_eq_true named
      simp [absent, here]
    · have other : name ≠ first.name := fun same => here same.symm
      simp [here, other]

theorem get?_resolve (bound : (s.resolve document declarations).error = none) (name : String) :
    (s.resolve document declarations).store.get? name =
      match declarations.find? fun d => d.name = name with
      | some d => some ⟨document.resolve d.path⟩
      | none => s.get? name := by
  unfold resolve at bound ⊢
  split at bound
  · cases bound
  · exact get?_bind bound name

theorem ne_nil_of_resolve (bound : (s.resolve document declarations).error = none) :
    ∀ d ∈ declarations, document.resolve d.path ≠ [] := by
  unfold resolve at bound
  split at bound
  · cases bound
  · exact ne_nil_of_bind bound

end Store

end Attest
