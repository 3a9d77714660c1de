import Mathlib.Data.List.Induction
import Attest.Analysis.Session
import Attest.Proofs.Evaluation.Reordering
/-!
# Batches of declarations

The declarations of an operation are bound all together or not at all. What a session holds are the
bindings of the operations since the last one that was refused.
-/

namespace Attest

namespace Store

variable {s : Store} {document : Node} {ds : List Declaration} {name : String} {binding : Binding}

/-- Declarations that are bound add their bindings to those of the store. -/
theorem get?_resolve_eq_some_iff (bound : (s.resolve document ds).error = none) :
    (s.resolve document ds).store.get? name = some binding ↔
      (∃ d ∈ ds, d.name = name ∧ binding = ⟨document.resolve d.path⟩) ∨
        s.get? name = some binding := by
  have fresh := fresh_of_resolve bound
  rw [get?_resolve bound]
  cases found : ds.find? fun d => d.name = name with
  | none =>
    have others := List.find?_eq_none.mp found
    constructor
    · intro held
      exact .inr held
    · rintro (⟨d, member, named, _⟩ | held)
      · exact absurd (decide_eq_true named) (others d member)
      · exact held
  | some d =>
    have member := List.mem_of_find?_eq_some found
    have named : d.name = name := by simpa using List.find?_some found
    constructor
    · intro held
      exact .inl ⟨d, member, named, (Option.some.inj held).symm⟩
    · rintro (⟨e, other, same, rfl⟩ | held)
      · have first := find?_of_mem fresh.apart other
        rw [same, found] at first
        rw [Option.some.inj first]
      · have free := fresh.free d member
        rw [named, held] at free
        cases free

end Store

namespace Session

/-! ### Operations -/

inductive Operation
  | declare (declarations : List Declaration)
  | evaluate (tree : AssertionTree)
  | run (specification : Specification)

def Operation.declarations : Operation → List Declaration
  | .declare declarations => declarations
  | .evaluate _ => []
  | .run specification => specification.declarations

/-- The session after an operation. -/
def after (s : Session) : Operation → Session
  | .declare declarations => (s.declare declarations).1
  | .evaluate _ => s
  | .run specification => (s.run specification).1

def performs (s : Session) (operations : List Operation) : Session :=
  operations.foldl after s

/-- The error with which an operation refuses its declarations. -/
def refusal? (s : Session) : Operation → Option DeclarationError
  | .declare declarations => (s.declare declarations).2.error
  | .evaluate _ => none
  | .run specification =>
    match (s.run specification).2 with
    | .error (.declaration error) => some error
    | _ => none

/-- None of the operations is refused. -/
def Accepts (s : Session) : List Operation → Prop
  | [] => True
  | operation :: later => s.refusal? operation = none ∧ (s.after operation).Accepts later

/-- Running a specification with any evaluation in place of the session's own. -/
def runBy (evaluate : Session → AssertionTree → Outcome) (s : Session)
    (specification : Specification) : Session × Except AnalysisError Bool :=
  let (s, declared) := s.declare specification.declarations
  match declared.error with
  | some error => (s, .error (.declaration error))
  | none => (s, (evaluate s specification.assertions).result.mapError .assertion)

theorem run_eq_runBy : run = runBy Session.evaluate := rfl

variable {s : Session} {operation : Operation} {earlier later : List Operation} {document : Node}
  {ds : List Declaration}

theorem runBy_of_refused {specification : Specification} {error : DeclarationError}
    (refused : (s.declare specification.declarations).2.error = some error)
    (evaluate : Session → AssertionTree → Outcome) :
    s.runBy evaluate specification = ({ s with store := .empty }, .error (.declaration error)) := by
  have failed : (s.store.resolve s.document specification.declarations).error = some error := refused
  simp [runBy, declare, failed]

/-! ### One operation -/

/-- Operations are refused for their declarations, whatever else they do. -/
theorem refusal?_eq (s : Session) (operation : Operation) :
    s.refusal? operation = (s.store.resolve s.document operation.declarations).error := by
  cases operation with
  | declare declarations => rfl
  | evaluate tree => rfl
  | run specification =>
    simp only [refusal?, run, declare, Operation.declarations]
    cases (s.store.resolve s.document specification.declarations).error with
    | some error => rfl
    | none =>
      generalize (evaluate _ _).result = verdict
      cases verdict <;> rfl

theorem run_fst (s : Session) (specification : Specification) :
    (s.run specification).1 = (s.declare specification.declarations).1 := by
  unfold run
  generalize s.declare specification.declarations = result
  obtain ⟨next, declared⟩ := result
  dsimp only
  cases declared.error <;> rfl

theorem after_eq (s : Session) (operation : Operation) :
    s.after operation =
      { s with
        store :=
          if (s.refusal? operation).isSome then .empty
          else (s.store.resolve s.document operation.declarations).store } := by
  rw [refusal?_eq]
  cases operation with
  | declare declarations => rfl
  | evaluate tree => rfl
  | run specification => exact run_fst s specification

theorem after_of_refused (refused : s.refusal? operation ≠ none) :
    s.after operation = { s with store := .empty } := by
  rw [after_eq, if_pos (Option.isSome_iff_ne_none.mpr refused)]

theorem after_of_accepted (accepted : s.refusal? operation = none) :
    s.after operation =
      { s with store := (s.store.resolve s.document operation.declarations).store } := by
  rw [after_eq, accepted]
  rfl

theorem get?_after (accepted : s.refusal? operation = none) {name : String} {binding : Binding} :
    (s.after operation).store.get? name = some binding ↔
      (∃ d ∈ operation.declarations, d.name = name ∧
        binding = ⟨s.document.resolve d.path⟩) ∨ s.store.get? name = some binding := by
  rw [after_of_accepted accepted]
  rw [refusal?_eq] at accepted
  exact Store.get?_resolve_eq_some_iff accepted

/-! ### What a session holds -/

/-- The session holds the bindings of the declarations and no others. No name is declared twice, and
each is bound to what its path leads to in the document. -/
structure Holds (s : Session) (document : Node) (ds : List Declaration) : Prop where
  document_eq : s.document = document
  apart : (ds.map Declaration.name).Nodup
  leads : Store.Leads document ds
  bindings : ∀ name binding, s.store.get? name = some binding ↔
    ∃ d ∈ ds, d.name = name ∧ binding = ⟨document.resolve d.path⟩

theorem holds_nothing {store : Store} (empty : store = .empty) :
    Holds ⟨document, store⟩ document [] where
  document_eq := rfl
  apart := List.nodup_nil
  leads := by simp [Store.Leads]
  bindings := by simp [empty]

theorem Holds.refused (holds : s.Holds document ds) (refused : s.refusal? operation ≠ none) :
    (s.after operation).Holds document [] := by
  rw [after_of_refused refused, holds.document_eq]
  exact holds_nothing rfl

theorem Holds.accepted (holds : s.Holds document ds) (accepted : s.refusal? operation = none) :
    (s.after operation).Holds document (ds ++ operation.declarations) := by
  have bound := accepted
  rw [refusal?_eq] at bound
  have fresh := Store.fresh_of_resolve bound
  have leads := Store.ne_nil_of_resolve bound
  rw [holds.document_eq] at leads
  refine ⟨?_, ?_, ?_, ?_⟩
  · rw [after_of_accepted accepted]
    exact holds.document_eq
  · rw [List.map_append, List.nodup_append]
    refine ⟨holds.apart, fresh.apart, ?_⟩
    intro name here other there same
    obtain ⟨d, member, rfl⟩ := List.mem_map.mp here
    obtain ⟨e, new, rfl⟩ := List.mem_map.mp there
    have free := fresh.free e new
    rw [← same, (holds.bindings d.name _).mpr ⟨d, member, rfl, rfl⟩] at free
    cases free
  · intro d member
    rcases List.mem_append.mp member with before | new
    · exact holds.leads d before
    · exact leads d new
  · intro name binding
    rw [get?_after accepted, holds.bindings, holds.document_eq]
    simp only [List.mem_append, or_and_right, exists_or]
    exact or_comm

/-! ### Runs -/

theorem performs_concat (s : Session) (earlier : List Operation) (operation : Operation) :
    s.performs (earlier ++ [operation]) = (s.performs earlier).after operation := by
  rw [performs, List.foldl_append]
  rfl

theorem accepts_concat :
    s.Accepts (later ++ [operation]) ↔
      s.Accepts later ∧ (s.performs later).refusal? operation = none := by
  induction later generalizing s with
  | nil => simp [Accepts, performs]
  | cons first later ih =>
    rw [List.cons_append, Accepts, Accepts, ih, and_assoc]
    rfl

/-- The last of the operations is refused, or there are none. -/
def EndsRefused (s : Session) (operations : List Operation) : Prop :=
  ∀ before last, operations = before ++ [last] → (s.performs before).refusal? last ≠ none

/-- The operations fall into those up to the last that is refused and those since then, whose
bindings the session holds. -/
theorem exists_stretch (document : Node) (operations : List Operation) :
    ∃ earlier since, operations = earlier ++ since ∧ EndsRefused { document } earlier ∧
      (performs { document } earlier).Accepts since ∧
      (performs { document } operations).Holds document (since.flatMap Operation.declarations) := by
  induction operations using List.reverseRecOn with
  | nil =>
    refine ⟨[], [], rfl, ?_, trivial, holds_nothing rfl⟩
    intro before last same
    exact absurd same.symm (List.append_ne_nil_of_right_ne_nil _ (List.cons_ne_nil _ _))
  | append_singleton operations operation ih =>
    obtain ⟨earlier, since, split, ends, accepts, holds⟩ := ih
    rw [performs_concat]
    by_cases accepted : (performs { document } operations).refusal? operation = none
    · refine ⟨earlier, since ++ [operation], ?_, ends, ?_, ?_⟩
      · rw [split, List.append_assoc]
      · rw [accepts_concat]
        refine ⟨accepts, ?_⟩
        rwa [performs, performs, ← List.foldl_append, ← split]
      · rw [List.flatMap_append, List.flatMap_singleton]
        exact holds.accepted accepted
    · refine ⟨operations ++ [operation], [], ?_, ?_, trivial, holds.refused accepted⟩
      · rw [List.append_nil]
      · intro before last same
        obtain ⟨rfl, one⟩ := List.append_inj' same rfl
        obtain rfl := List.singleton_inj.mp one
        exact accepted

/-- After any operations a session holds the bindings of those since the last one that was refused,
each name declared once, and nothing else. Until then no binding is changed, an evaluation in
between makes no difference, and declarations that are refused leave nothing bound and nothing
evaluated. -/
theorem performs_holds :
    (∀ (document : Node) (operations : List Operation),
      ∃ earlier since, operations = earlier ++ since ∧ EndsRefused { document } earlier ∧
        (performs { document } earlier).Accepts since ∧
        (performs { document } operations).Holds document
          (since.flatMap Operation.declarations)) ∧
    (∀ (s : Session) (operation : Operation),
      (s.refusal? operation = none → ∀ name binding, s.store.get? name = some binding →
        (s.after operation).store.get? name = some binding) ∧
      (s.refusal? operation ≠ none → s.after operation = { s with store := .empty })) ∧
    (∀ (s : Session) (earlier later : List Operation) (tree : AssertionTree),
      s.performs (earlier ++ .evaluate tree :: later) = s.performs (earlier ++ later)) ∧
    ∀ (s : Session) (specification : Specification) (error : DeclarationError),
      (s.declare specification.declarations).2.error = some error →
        s.run specification = ({ s with store := .empty }, .error (.declaration error)) ∧
          ∀ evaluate, s.runBy evaluate specification = s.run specification := by
  refine ⟨exists_stretch, ?_, ?_, ?_⟩
  · intro s operation
    refine ⟨?_, after_of_refused⟩
    intro accepted name binding held
    exact (get?_after accepted).mpr (.inr held)
  · intro s earlier later tree
    rw [performs, performs, List.foldl_append, List.foldl_append, List.foldl_cons]
    rfl
  · intro s specification error refused
    have same := runBy_of_refused refused
    rw [run_eq_runBy]
    refine ⟨same _, ?_⟩
    intro evaluate
    rw [same, same]

/-- A name that is declared again loses both its bindings, and can be declared once more. -/
theorem performs_holds_again :
    let document : Node := .mapping [("a", .integer 1), ("b", .integer 2)]
    let first : Operation := .declare [⟨"x", [.field "a"]⟩]
    let again : Specification := ⟨[⟨"x", [.field "b"]⟩], .and []⟩
    let s := performs { document } [first]
    (s.declare again.declarations).2.error = some (.duplicateName "x") ∧
      s.run again = ({ s with store := .empty }, .error (.declaration (.duplicateName "x"))) ∧
      (performs { document } [first, .run again, .evaluate (.and []), .run again]).store.get? "x" =
        some ⟨[.integer 2]⟩ := by
  intro document first again s
  obtain ⟨_, _, _, runs⟩ := performs_holds
  have refused : (s.declare again.declarations).2.error = some (.duplicateName "x") := by
    decide +kernel
  exact ⟨refused, (runs s again _ refused).1, rfl⟩

end Session

end Attest
