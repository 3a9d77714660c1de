import Attest.Proofs.Analysis.Batches
import Attest.Proofs.Analysis.Sessions
/-!
# How evaluations end

An evaluation ends at the input, at the source, at a broken text, at the declarations or with a
verdict on the assertions. Where it ends decides what becomes of the analyzer and what is written.
-/

namespace Attest

namespace Analyzer

/-- What an evaluation comes to: the analyzer, the result and the records. -/
inductive Ends (a : Analyzer) (files : Files) (text : String) : Analysis → Prop
  | noInput (missing : a.input = none) : Ends a files text (a.refuse (.input .missing))
  | noSource {document : Node} {error : SourceError} (loaded : a.input = some document)
      (failed : a.sourceText files text = .error error) :
      Ends a files text (a.refuse (.source error))
  | broken {document : Node} {source : String} {errors : SyntaxErrors}
      (loaded : a.input = some document) (chosen : a.sourceText files text = .ok source)
      (failed : Specification.parse source = .error errors) :
      Ends a files text (a.refuse (.invalid errors.diagnostics))
  | unbound {document : Node} {spec : Specification} {error : DeclarationError}
      (attempt : a.attempted? files text = some (document, spec))
      (refused : (Store.empty.resolve document spec.declarations).error = some error) :
      Ends a files text ⟨{ a with store := .empty }, .error (.declaration error),
        overview document spec ++
          (Store.empty.resolve document spec.declarations).bound.map boundRecord ++
          (AnalysisError.declaration error).records⟩
  | evaluated {document : Node} {spec : Specification}
      (attempt : a.attempted? files text = some (document, spec))
      (bound : (Store.empty.resolve document spec.declarations).error = none) :
      Ends a files text ⟨{ a with store := (spec.scope document).store },
        ((spec.scope document).evaluate spec.assertions).result.mapError .assertion,
        overview document spec ++
          (Store.empty.resolve document spec.declarations).bound.map boundRecord ++
          evaluationRecords ((spec.scope document).evaluate spec.assertions)⟩

variable {a : Analyzer} {files : Files} {text : String} {analysis : Analysis}

theorem ends_of_attempted {document : Node} {spec : Specification}
    (attempt : a.attempted? files text = some (document, spec)) :
    a.Ends files text (a.runSpecification document spec) := by
  cases failed : (Store.empty.resolve document spec.declarations).error with
  | some error =>
    have ends := Ends.unbound attempt failed
    simpa [runSpecification, Session.declare, failed] using ends
  | none =>
    have ends := Ends.evaluated attempt failed
    simpa [runSpecification, Session.declare, failed, Session.evaluate, Specification.scope] using ends

theorem evaluateText_ends (a : Analyzer) (files : Files) (text : String) :
    a.Ends files text (a.evaluateText files text) := by
  cases attempt : a.attempted? files text with
  | some pair =>
    rw [evaluateText_of_attempted attempt]
    exact ends_of_attempted attempt
  | none =>
    unfold evaluateText
    cases loaded : a.input with
    | none => exact .noInput loaded
    | some document =>
      dsimp only
      cases chosen : a.sourceText files text with
      | error error => exact .noSource loaded chosen
      | ok source =>
        dsimp only
        cases read : Specification.parse source with
        | error errors => exact .broken loaded chosen read
        | ok spec => simp [attempted?, loaded, chosen, read, Except.toOption] at attempt

theorem parts_of_attempted {document : Node} {spec : Specification}
    (attempt : a.attempted? files text = some (document, spec)) :
    ∃ source, a.input = some document ∧ a.sourceText files text = .ok source ∧
      Specification.parse source = .ok spec := by
  have toOption {ε α : Type} {result : Except ε α} {x : α} (here : result.toOption = some x) :
      result = .ok x := by
    cases result with
    | error e => cases here
    | ok y =>
      cases here
      rfl
  simp only [attempted?, Option.bind_eq_bind, Option.bind_eq_some_iff] at attempt
  obtain ⟨_, loaded, source, chosen, _, read, same⟩ := attempt
  cases same
  exact ⟨source, loaded, toOption chosen, toOption read⟩

/-! ### What an evaluation leaves -/

theorem Ends.keeps (ends : a.Ends files text analysis) :
    analysis.analyzer.input = a.input ∧ analysis.analyzer.source = a.source := by
  cases ends <;> exact ⟨rfl, rfl⟩

/-- Up to the declarations a failure leaves everything as it was. -/
theorem Ends.of_refused (ends : a.Ends files text analysis) {error : AnalysisError}
    (failed : analysis.result = .error error) (undeclared : ∀ e, error ≠ .declaration e)
    (unasserted : ∀ e, error ≠ .assertion e) : analysis.analyzer = a := by
  cases ends with
  | noInput => rfl
  | noSource => rfl
  | broken => rfl
  | unbound _ _ =>
    cases failed
    exact absurd rfl (undeclared _)
  | evaluated _ _ =>
    dsimp only at failed
    generalize (Scope.evaluate _ _).result = verdict at failed
    cases verdict with
    | ok value => cases failed
    | error e =>
      cases failed
      exact absurd rfl (unasserted e)

theorem Ends.of_declaration_error (ends : a.Ends files text analysis) {error : DeclarationError}
    (failed : analysis.result = .error (.declaration error)) :
    analysis.analyzer.store = .empty := by
  cases ends with
  | noInput => cases failed
  | noSource => cases failed
  | broken => cases failed
  | unbound => rfl
  | evaluated _ _ =>
    dsimp only at failed
    generalize (Scope.evaluate _ _).result = verdict at failed
    cases verdict <;> cases failed

/-- A verdict, or an error of an assertion, comes after the declarations are bound. -/
theorem Ends.of_verdict (ends : a.Ends files text analysis) {verdict : Except AssertionError Bool}
    (ended : analysis.result = verdict.mapError .assertion) :
    ∃ document spec, a.attempted? files text = some (document, spec) ∧
      (Store.empty.resolve document spec.declarations).error = none ∧
      ((spec.scope document).evaluate spec.assertions).result = verdict ∧
      analysis.analyzer.store = (Store.empty.resolve document spec.declarations).store := by
  cases ends with
  | noInput => cases verdict <;> cases ended
  | noSource => cases verdict <;> cases ended
  | broken => cases verdict <;> cases ended
  | unbound => cases verdict <;> cases ended
  | @evaluated document spec attempt bound =>
    refine ⟨document, spec, attempt, bound, ?_, rfl⟩
    dsimp only at ended
    generalize (Scope.evaluate _ _).result = other at ended ⊢
    cases other <;> cases verdict <;> cases ended <;> rfl

/-- An input that cannot be read changes nothing. An evaluation changes variables at most: it leaves
them as they are if it fails before its declarations, it drops them if these cannot be bound, and
otherwise they are those that the declarations bind in the input, with no others. -/
theorem evaluateText_leaves (a : Analyzer) :
    (∀ json error, a.setJson json = .error error → a.after (.setJson json) = a) ∧
    (∀ xml error, a.setXml xml = .error error → a.after (.setXml xml) = a) ∧
    ∀ files, a.evaluate files = a.evaluateText files "" ∧ ∀ text,
      let analysis := a.evaluateText files text
      let next := analysis.analyzer
      (next.input = a.input ∧ next.source = a.source) ∧
      (∀ error, analysis.result = .error (.input error) → next.store = a.store) ∧
      (∀ error, analysis.result = .error (.source error) → next.store = a.store) ∧
      (∀ diagnostics, analysis.result = .error (.invalid diagnostics) → next.store = a.store) ∧
      (∀ error, analysis.result = .error (.declaration error) → next.store = .empty) ∧
      ∀ verdict : Except AssertionError Bool, analysis.result = verdict.mapError .assertion →
        ∃ document source spec, a.input = some document ∧ a.sourceText files text = .ok source ∧
          Specification.parse source = .ok spec ∧
          (Store.empty.resolve document spec.declarations).error = none ∧
          next.store = (Store.empty.resolve document spec.declarations).store ∧
          ∀ name binding, next.store.get? name = some binding ↔
            ∃ d ∈ spec.declarations, d.name = name ∧ binding = ⟨document.resolve d.path⟩ := by
  refine ⟨?_, ?_, fun files => ⟨rfl, fun text => ?_⟩⟩
  · intro json error failed
    rw [after, failed]
    rfl
  · intro xml error failed
    rw [after, failed]
    rfl
  · intro analysis next
    have ends : a.Ends files text analysis := a.evaluateText_ends files text
    refine ⟨ends.keeps, ?_, ?_, ?_, fun error => ends.of_declaration_error, ?_⟩
    · intro error failed
      exact congrArg store (ends.of_refused failed (by simp) (by simp))
    · intro error failed
      exact congrArg store (ends.of_refused failed (by simp) (by simp))
    · intro diagnostics failed
      exact congrArg store (ends.of_refused failed (by simp) (by simp))
    · intro verdict ended
      obtain ⟨document, spec, attempt, bound, _, same⟩ := ends.of_verdict ended
      obtain ⟨source, loaded, chosen, read⟩ := parts_of_attempted attempt
      refine ⟨document, source, spec, loaded, chosen, read, bound, same, ?_⟩
      intro name binding
      rw [show next.store = _ from same, Store.get?_resolve_eq_some_iff bound]
      simp

/-- A variable that was put is kept by a text that is broken, and by no other. -/
theorem evaluateText_leaves_put :
    let x : Binding := ⟨[.integer 2]⟩
    let a : Analyzer :=
      { input := some (.mapping [("a", .integer 1)]), store := Store.empty.put "x" x }
    let files : Files := fun _ => .error .notFound
    (a.evaluateText files "equals(").analyzer.store.get? "x" = some x ∧
      (a.evaluateText files "let y = b; exists(a)").analyzer.store.get? "x" = none ∧
      (a.evaluateText files "let y = a; exists(b)").analyzer.store.get? "x" = none := by
  intro x a files
  obtain ⟨_, _, evaluates⟩ := a.evaluateText_leaves
  obtain ⟨_, leaves⟩ := evaluates files
  obtain ⟨_, _, _, broken, _, _⟩ := leaves "equals("
  obtain ⟨_, _, _, _, unbound, _⟩ := leaves "let y = b; exists(a)"
  have failed : ∃ diagnostics,
      (a.evaluateText files "equals(").result = .error (.invalid diagnostics) := ⟨_, rfl⟩
  obtain ⟨diagnostics, failed⟩ := failed
  have refused : (a.evaluateText files "let y = b; exists(a)").result =
      .error (.declaration (.unresolved "y" "b")) := by decide +kernel
  rw [broken diagnostics failed, unbound _ refused]
  exact ⟨rfl, rfl, by decide +kernel⟩

end Analyzer

end Attest
