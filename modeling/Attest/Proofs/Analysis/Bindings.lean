import Attest.Proofs.Analysis.Histories
import Attest.Proofs.Evaluation.Declarations
/-!
# Kept variables

Unless variables are put from outside, those an analyzer keeps are bound by declarations of the last
specification whose declarations could be bound, to nodes of the document it has.
-/

namespace Attest

namespace Analyzer

/-! ### The last specification that was bound -/

/-- The specification of an evaluation, if its declarations can be bound. -/
def bindable? (a : Analyzer) (files : Files) (text : String) : Option Specification :=
  match a.attempted? files text with
  | none => none
  | some (document, specification) =>
    match (Store.empty.resolve document specification.declarations).error with
    | some _ => none
    | none => some specification

/-- The specification whose declarations a call binds. -/
def bound? (a : Analyzer) : Call → Option Specification
  | .evaluate files => a.bindable? files ""
  | .evaluateText files text => a.bindable? files text
  | _ => none

/-- Of the specifications whose declarations were bound in a history, the last. -/
def lastBound? (a : Analyzer) : List Call → Option Specification
  | [] => none
  | call :: calls => ((a.after call).lastBound? calls).or (a.bound? call)

/-! ### What a call does -/

/-- What becomes of the variables in a call that puts none: they are dropped, no others are there
than before, or those of a specification replace them. -/
inductive Change (a : Analyzer) : Option Specification → Analyzer → Prop
  | drop {b : Analyzer} (store : b.store = .empty) : Change a none b
  | keep {b : Analyzer} (input : b.input = a.input)
      (store : ∀ name binding, b.store.get? name = some binding →
        a.store.get? name = some binding) : Change a none b
  | bind {document : Node} {specification : Specification} (loaded : a.input = some document)
      (bound : (Store.empty.resolve document specification.declarations).error = none) :
      Change a (some specification)
        { a with store := (Store.empty.resolve document specification.declarations).store }

variable {a : Analyzer} {last : Option Specification}

theorem Change.refl (a : Analyzer) : a.Change none a :=
  .keep rfl fun _ _ held => held

theorem runSpecification_analyzer (a : Analyzer) (document : Node) (specification : Specification) :
    let declared := Store.empty.resolve document specification.declarations
    (a.runSpecification document specification).analyzer =
      { a with store := if declared.error.isSome then .empty else declared.store } := by
  simp only [runSpecification, Session.declare]
  split <;> rfl

/-- Declarations that cannot be bound leave no variables. -/
theorem change_evaluateText (a : Analyzer) (files : Files) (text : String) :
    a.Change (a.bindable? files text) (a.evaluateText files text).analyzer := by
  unfold bindable?
  cases attempt : a.attempted? files text with
  | none =>
    obtain ⟨error, same, _⟩ := evaluateText_of_not_attempted attempt
    rw [same]
    exact .refl a
  | some pair =>
    obtain ⟨document, specification⟩ := pair
    rw [evaluateText_of_attempted attempt, runSpecification_analyzer]
    cases failed : (Store.empty.resolve document specification.declarations).error with
    | some error =>
      simp only [failed]
      exact .drop rfl
    | none =>
      simp only [failed]
      exact .bind (input_of_attempted attempt) failed

theorem change_after (call : Call) (quiet : call.puts = false) :
    a.Change (a.bound? call) (a.after call) := by
  cases call with
  | setInput document => exact .drop rfl
  | setEntries entries => exact .drop rfl
  | setJson text =>
    simp only [after, setJson]
    cases Node.readJson text with
    | error error => exact .refl a
    | ok document => exact .drop rfl
  | setXml text =>
    simp only [after, setXml]
    cases Node.readXml text with
    | error error => exact .refl a
    | ok document => exact .drop rfl
  | setSource text => exact .keep rfl fun _ _ held => held
  | setSourceFile path => exact .keep rfl fun _ _ held => held
  | evaluate files => exact a.change_evaluateText files ""
  | evaluateText files text => exact a.change_evaluateText files text
  | putVariable name binding => cases quiet
  | removeVariable name =>
    refine .keep rfl fun other binding held => ?_
    simp only [after, removeVariable, Store.get?_remove] at held
    split at held
    · cases held
    · exact held

/-! ### Variables of the document -/

/-- The variables are all bound by declarations of the last specification over the document. -/
def Faithful (a : Analyzer) (last : Option Specification) : Prop :=
  ∀ name binding, a.store.get? name = some binding →
    binding.nodes ≠ [] ∧
      ∃ document specification, a.input = some document ∧ last = some specification ∧
        ∃ d ∈ specification.declarations, d.name = name ∧ binding.nodes = document.resolve d.path

/-- Variables are bound to what their declarations lead to, which is never nothing. -/
theorem faithful_resolve {document : Node} {specification : Specification}
    (loaded : a.input = some document)
    (bound : (Store.empty.resolve document specification.declarations).error = none) :
    Faithful { a with store := (Store.empty.resolve document specification.declarations).store }
      (some specification) := by
  intro name binding held
  rw [Store.get?_resolve bound] at held
  split at held
  · next d found =>
    cases held
    have declared : d ∈ specification.declarations := List.mem_of_find?_eq_some found
    have named : d.name = name := by simpa using List.find?_some found
    exact ⟨Store.ne_nil_of_resolve bound d declared, document, specification, loaded, rfl, d,
      declared, named, rfl⟩
  · cases held

theorem Faithful.change {b : Analyzer} {specification : Option Specification}
    (faithful : a.Faithful last) (change : a.Change specification b) :
    b.Faithful (specification.or last) := by
  cases change with
  | drop store =>
    intro name binding held
    rw [store] at held
    cases held
  | keep input store =>
    intro name binding held
    rw [input]
    exact faithful name binding (store name binding held)
  | bind loaded bound => exact faithful_resolve loaded bound

theorem Faithful.run (faithful : a.Faithful last) {calls : List Call}
    (quiet : ∀ call ∈ calls, call.puts = false) :
    (a.run calls).Faithful ((a.lastBound? calls).or last) := by
  induction calls generalizing a last with
  | nil => exact faithful
  | cons call calls ih =>
    obtain ⟨here, later⟩ := List.forall_mem_cons.mp quiet
    have next := ih (faithful.change (change_after call here)) later
    rwa [← Option.or_assoc] at next

/-- A binding that ends early leaves no variables. -/
theorem store_of_declaration_error {files : Files} {text : String} {error : DeclarationError}
    (failed : (a.evaluateText files text).result = .error (.declaration error)) :
    (a.evaluateText files text).analyzer.store = .empty := by
  cases attempt : a.attempted? files text with
  | none =>
    obtain ⟨other, same, stage⟩ := evaluateText_of_not_attempted attempt
    rw [same] at failed
    cases failed
    exact absurd rfl (stage error)
  | some pair =>
    obtain ⟨document, specification⟩ := pair
    rw [evaluateText_of_attempted attempt] at failed ⊢
    rw [runSpecification_analyzer]
    cases ended : (Store.empty.resolve document specification.declarations).error with
    | some error => rfl
    | none =>
      simp only [runSpecification, Session.declare, ended] at failed
      generalize (Session.evaluate _ _).result = verdict at failed
      cases verdict <;> cases failed

/-- Unless variables are put from outside, each one an analyzer keeps was bound by a declaration of
the last specification whose declarations could be bound, to the nodes its path leads to in the
document the analyzer has, of which there are some. A binding that ends early leaves none. -/
theorem store_faithful {calls : List Call} (quiet : ∀ call ∈ calls, call.puts = false) :
    (empty.run calls).Faithful (empty.lastBound? calls) ∧
      ∀ files text error,
        ((empty.run calls).evaluateText files text).result = .error (.declaration error) →
        ((empty.run calls).evaluateText files text).analyzer.store = .empty := by
  have start : empty.Faithful none := nofun
  refine ⟨?_, fun files text error => store_of_declaration_error⟩
  simpa using start.run quiet

/-- A variable is kept when others are taken away. -/
theorem store_faithful_removed :
    let files : Files := fun _ => .error .notFound
    let calls : List Call := [
      .setEntries [("status", .string "ok")],
      .evaluateText files "let s = status; let t = status; equals(s, t)",
      .removeVariable "t"]
    (∀ call ∈ calls, call.puts = false) ∧ ((empty.run calls).store.get? "s").isSome ∧
      (empty.run calls).Faithful (empty.lastBound? calls) := by
  intro files calls
  have quiet : ∀ call ∈ calls, call.puts = false := by decide
  exact ⟨quiet, by decide +kernel, (store_faithful quiet).1⟩

end Analyzer

end Attest
