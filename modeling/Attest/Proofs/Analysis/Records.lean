import Attest.Proofs.Analysis.Endings
import Attest.Proofs.Evaluation.ShortCircuit
/-!
# The records of an evaluation

What is written tells how an evaluation ended and which leaves it completed.
-/

namespace Attest

/-- The records of a level, in order. -/
def atLevel (level : Level) (log : List Record) : List Record :=
  log.filter fun record => record.level = level

/-- What is written when the declarations are bound, before the assertions. -/
def evaluationStarts : Record := ⟨.info, "ASSERTION EVALUATION"⟩

/-- Errors as they are written: of a broken text the number of its faults and each of them, of any
other error its message. -/
inductive AnalysisError.Written : AnalysisError → List Record → Prop
  | invalid (diagnostics : List Diagnostic) :
      Written (.invalid diagnostics)
        (⟨.error, "SYNTAX ERRORS: " ++ toString diagnostics.length ++ " found"⟩ ::
          diagnostics.map fun d => ⟨.error, d.text⟩)
  | message {error : AnalysisError} (valid : ∀ diagnostics, error ≠ .invalid diagnostics) :
      Written error [⟨.error, error.message⟩]

/-- The records tell, in order and with its result, of each reached leaf that completes and of no
other. -/
structure Tells (leaf : Assertion → Except AssertionError Bool) (tree : AssertionTree)
    (reached places : List Nat) (records : List Record) : Prop where
  ordered : places.Pairwise (· < ·)
  mem_iff : ∀ i, i ∈ places ↔ i ∈ reached ∧ AssertionTree.Settled leaf tree.leaves i
  texts : List.Forall₂
    (fun i record => ∃ assertion value, tree.leaves[i]? = some assertion ∧
      leaf assertion = .ok value ∧
      record = ⟨.debug, assertion.text ++ " -> " ++ toString value⟩) places records

section

variable {level : Level} {log : List Record} {error : AnalysisError}

/-! ### Levels -/

theorem atLevel_append (level : Level) (log later : List Record) :
    atLevel level (log ++ later) = atLevel level log ++ atLevel level later :=
  List.filter_append ..

theorem atLevel_of_forall (same : ∀ record ∈ log, record.level = level) :
    atLevel level log = log := by
  rw [atLevel, List.filter_eq_self]
  intro record member
  exact decide_eq_true (same record member)

theorem atLevel_of_forall_ne (other : ∀ record ∈ log, record.level ≠ level) :
    atLevel level log = [] := by
  rw [atLevel, List.filter_eq_nil_iff]
  intro record member here
  exact other record member (of_decide_eq_true here)

theorem mem_atLevel {record : Record} :
    record ∈ atLevel level log ↔ record ∈ log ∧ record.level = level := by
  simp [atLevel]

theorem level_of_mem_map {α : Type} {write : α → Record} {xs : List α} {record : Record}
    (level : Level) (member : record ∈ xs.map write) (same : ∀ x, (write x).level = level) :
    record.level = level := by
  obtain ⟨x, _, rfl⟩ := List.mem_map.mp member
  exact same x

/-! ### Errors -/

theorem AnalysisError.level_of_mem_records : ∀ record ∈ error.records, record.level = .error := by
  intro record member
  rcases List.mem_cons.mp member with rfl | diagnostic
  · rfl
  · exact level_of_mem_map .error diagnostic fun _ => rfl

theorem AnalysisError.records_written (error : AnalysisError) : error.Written error.records := by
  cases error with
  | invalid diagnostics => exact .invalid diagnostics
  | input error => exact .message (by simp)
  | source error => exact .message (by simp)
  | declaration error => exact .message (by simp)
  | assertion error => exact .message (by simp)

theorem atLevel_error_records (error : AnalysisError) :
    atLevel .error error.records = error.records :=
  atLevel_of_forall AnalysisError.level_of_mem_records

theorem evaluationStarts_notMem_records (error : AnalysisError) :
    evaluationStarts ∉ error.records := by
  intro member
  cases AnalysisError.level_of_mem_records _ member

end

namespace Analyzer

/-! ### Before the assertions -/

/-- What is written before the assertions are evaluated. -/
def preamble (document : Node) (spec : Specification) : List Record :=
  overview document spec ++
    (Store.empty.resolve document spec.declarations).bound.map boundRecord

variable {document : Node} {spec : Specification}

theorem atLevel_error_preamble (document : Node) (spec : Specification) :
    atLevel .error (preamble document spec) = [] := by
  refine atLevel_of_forall_ne fun record member => ?_
  rcases List.mem_append.mp member with first | bound
  · simp only [overview, List.mem_cons, List.not_mem_nil, or_false] at first
    rcases first with rfl | rfl | rfl <;> simp
  · rw [level_of_mem_map .debug bound fun _ => rfl]
    simp

theorem evaluationStarts_text_ne (count : Nat) {found : String}
    (last : found.toList.getLast? = some 'd') : evaluationStarts.text ≠ toString count ++ found := by
  intro same
  have ends := congrArg (fun text : String => text.toList.getLast?) same
  simp [evaluationStarts, String.toList_append, List.getLast?_append, last] at ends

theorem evaluationStarts_notMem_preamble (document : Node) (spec : Specification) :
    evaluationStarts ∉ preamble document spec := by
  intro member
  rcases List.mem_append.mp member with first | bound
  · simp only [overview, List.mem_cons, List.not_mem_nil, or_false] at first
    rcases first with same | same | same
    · cases congrArg Record.level same
    · exact evaluationStarts_text_ne _ rfl (congrArg Record.text same)
    · exact evaluationStarts_text_ne _ rfl (congrArg Record.text same)
  · cases level_of_mem_map .debug bound fun _ => rfl

/-! ### Assertions -/

/-- What is written of a failure, in any case. -/
def failureRecords : Except AnalysisError Bool → List Record
  | .ok _ => []
  | .error error => error.records

/-- What is written of the result of a tree. -/
def verdictRecords : Except AssertionError Bool → List Record
  | .ok value => [⟨.info, "RESULT: " ++ toString value⟩]
  | .error error => (AnalysisError.assertion error).records

theorem evaluationRecords_eq (outcome : Outcome) :
    evaluationRecords outcome =
      evaluationStarts :: (outcome.completed.map leafRecord ++ verdictRecords outcome.result) := by
  obtain ⟨result, completed⟩ := outcome
  cases result <;> rfl

theorem evaluationStarts_notMem_verdictRecords (result : Except AssertionError Bool) :
    evaluationStarts ∉ verdictRecords result := by
  cases result with
  | ok value => cases value <;> decide
  | error error => exact evaluationStarts_notMem_records _

theorem atLevel_debug_verdictRecords (result : Except AssertionError Bool) :
    atLevel .debug (verdictRecords result) = [] := by
  cases result with
  | ok value => rfl
  | error error => rfl

theorem atLevel_debug_leafRecords (completed : List (Assertion × Bool)) :
    atLevel .debug (completed.map leafRecord) = completed.map leafRecord := by
  refine atLevel_of_forall fun record member => ?_
  exact level_of_mem_map .debug member fun _ => rfl

theorem atLevel_error_evaluationRecords (outcome : Outcome) :
    atLevel .error (evaluationRecords outcome) =
      failureRecords (outcome.result.mapError .assertion) := by
  obtain ⟨verdict, completed⟩ := outcome
  have others : atLevel .error (completed.map leafRecord) = [] := by
    refine atLevel_of_forall_ne fun record member => ?_
    rw [level_of_mem_map .debug member fun _ => rfl]
    simp
  rw [evaluationRecords_eq, ← List.singleton_append, atLevel_append, atLevel_append, others]
  cases verdict with
  | ok value => rfl
  | error error => exact atLevel_error_records (.assertion error)

/-- Where the assertions start is told by the one record that says so. -/
theorem eq_of_evaluationStarts {outcome : Outcome} {before after : List Record}
    (split : preamble document spec ++ evaluationRecords outcome =
      before ++ evaluationStarts :: after) :
    after = outcome.completed.map leafRecord ++ verdictRecords outcome.result := by
  have later : evaluationStarts ∉
      outcome.completed.map leafRecord ++ verdictRecords outcome.result := by
    intro member
    rcases List.mem_append.mp member with completed | verdict
    · cases level_of_mem_map .debug completed fun _ => rfl
    · exact evaluationStarts_notMem_verdictRecords _ verdict
  rw [evaluationRecords_eq] at split
  have parts := (List.append_cons_inj_of_notMem
    (evaluationStarts_notMem_preamble document spec) later).mp split
  exact parts.2.2.symm

/-! ### Leaves -/

section

open AssertionTree

variable {leaf : Assertion → Except AssertionError Bool} {leaves : List Assertion}

theorem completed?_eq_some_iff {i : Nat} {assertion : Assertion} {value : Bool} :
    completed? leaf leaves i = some (assertion, value) ↔
      leaves[i]? = some assertion ∧ leaf assertion = .ok value := by
  rw [completed?, Option.bind_eq_some_iff]
  constructor
  · rintro ⟨a, here, found⟩
    cases result : leaf a with
    | error e =>
      rw [result] at found
      cases found
    | ok b =>
      rw [result] at found
      cases found
      exact ⟨here, result⟩
  · rintro ⟨here, found⟩
    refine ⟨assertion, here, ?_⟩
    rw [found]
    rfl

theorem isSome_completed?_iff {i : Nat} :
    (completed? leaf leaves i).isSome ↔ Settled leaf leaves i := by
  rw [Option.isSome_iff_exists]
  constructor
  · rintro ⟨⟨assertion, value⟩, completed⟩
    exact ⟨assertion, value, completed?_eq_some_iff.mp completed⟩
  · rintro ⟨assertion, value, settled⟩
    exact ⟨(assertion, value), completed?_eq_some_iff.mpr settled⟩

theorem texts_completed (reached : List Nat) :
    List.Forall₂
      (fun i record => ∃ assertion value, leaves[i]? = some assertion ∧
        leaf assertion = .ok value ∧
        record = ⟨.debug, assertion.text ++ " -> " ++ toString value⟩)
      (reached.filter fun i => (completed? leaf leaves i).isSome)
      ((reached.filterMap (completed? leaf leaves)).map leafRecord) := by
  induction reached with
  | nil => exact .nil
  | cons i reached ih =>
    cases completed : completed? leaf leaves i with
    | none =>
      rw [List.filter_cons_of_neg (by simp [completed]), List.filterMap_cons_none completed]
      exact ih
    | some pair =>
      obtain ⟨assertion, value⟩ := pair
      obtain ⟨here, found⟩ := completed?_eq_some_iff.mp completed
      rw [List.filter_cons_of_pos (by simp [completed]), List.filterMap_cons_some completed]
      exact .cons ⟨assertion, value, here, found, rfl⟩ ih

/-- The records of the leaves that complete tell of their places among those reached. -/
theorem tells_completed {tree : AssertionTree} {reached : List Nat}
    {result : Except AssertionError Bool} (reaches : Reaches leaf tree reached result) :
    Tells leaf tree reached (reached.filter fun i => (completed? leaf tree.leaves i).isSome)
      ((reached.filterMap (completed? leaf tree.leaves)).map leafRecord) where
  ordered := reaches.ordered.filter _
  mem_iff := by
    intro i
    rw [List.mem_filter, isSome_completed?_iff]
  texts := texts_completed reached

end

/-! ### Evaluations -/

variable {a : Analyzer} {files : Files} {text : String} {analysis : Analysis}

theorem Ends.atLevel_error (ends : a.Ends files text analysis) :
    atLevel .error analysis.log = failureRecords analysis.result := by
  cases ends with
  | noInput => exact atLevel_error_records _
  | noSource => exact atLevel_error_records _
  | broken => exact atLevel_error_records _
  | @unbound document spec error _ _ =>
    show atLevel .error (preamble document spec ++ _) = _
    rw [atLevel_append, atLevel_error_preamble, atLevel_error_records]
    rfl
  | @evaluated document spec _ _ =>
    show atLevel .error (preamble document spec ++ _) = failureRecords (Except.mapError _ _)
    rw [atLevel_append, atLevel_error_preamble, atLevel_error_evaluationRecords]
    rfl

theorem Ends.getLast?_log (ends : a.Ends files text analysis) {value : Bool}
    (succeeds : analysis.result = .ok value) :
    analysis.log.getLast? = some ⟨.info, "RESULT: " ++ toString value⟩ := by
  cases ends with
  | noInput => cases succeeds
  | noSource => cases succeeds
  | broken => cases succeeds
  | unbound => cases succeeds
  | @evaluated document spec _ _ =>
    dsimp only at succeeds ⊢
    rw [evaluationRecords_eq]
    generalize Scope.evaluate _ _ = outcome at succeeds ⊢
    obtain ⟨verdict, completed⟩ := outcome
    cases verdict with
    | error e => cases succeeds
    | ok b =>
      cases succeeds
      rw [← List.cons_append, ← List.append_assoc, verdictRecords, List.getLast?_append]
      rfl

/-- The assertions are evaluated once the declarations are bound. -/
theorem Ends.evaluationStarts_mem_iff (ends : a.Ends files text analysis) :
    evaluationStarts ∈ analysis.log ↔
      ∃ verdict : Except AssertionError Bool, analysis.result = verdict.mapError .assertion := by
  have unevaluated {error : AnalysisError} (unasserted : ∀ e, error ≠ .assertion e) :
      ¬∃ verdict : Except AssertionError Bool,
        (.error error : Except AnalysisError Bool) = verdict.mapError .assertion := by
    rintro ⟨verdict | value, same⟩
    · cases same
      exact unasserted _ rfl
    · cases same
  cases ends with
  | noInput => exact iff_of_false (evaluationStarts_notMem_records _) (unevaluated (by simp))
  | noSource => exact iff_of_false (evaluationStarts_notMem_records _) (unevaluated (by simp))
  | broken => exact iff_of_false (evaluationStarts_notMem_records _) (unevaluated (by simp))
  | @unbound document spec error _ _ =>
    refine iff_of_false ?_ (unevaluated (by simp))
    show evaluationStarts ∉ preamble document spec ++ _
    rw [List.mem_append, not_or]
    exact ⟨evaluationStarts_notMem_preamble document spec, evaluationStarts_notMem_records _⟩
  | evaluated =>
    refine iff_of_true ?_ ⟨_, rfl⟩
    rw [evaluationRecords_eq]
    simp

/-- What follows once the assertions are evaluated tells of the leaves that complete. -/
theorem Ends.tells (ends : a.Ends files text analysis) {before after : List Record}
    (split : analysis.log = before ++ evaluationStarts :: after) :
    ∃ document spec reached verdict places,
      a.attempted? files text = some (document, spec) ∧
      AssertionTree.Reaches (spec.scope document).leaf spec.assertions reached verdict ∧
      analysis.result = verdict.mapError .assertion ∧
      Tells (spec.scope document).leaf spec.assertions reached places (atLevel .debug after) := by
  have here : evaluationStarts ∈ analysis.log := by simp [split]
  obtain ⟨verdict, ended⟩ := ends.evaluationStarts_mem_iff.mp here
  cases ends with
  | noInput => cases verdict <;> cases ended
  | noSource => cases verdict <;> cases ended
  | broken => cases verdict <;> cases ended
  | unbound => cases verdict <;> cases ended
  | @evaluated document spec attempt bound =>
    obtain ⟨reached, reaches, completed⟩ :=
      AssertionTree.evaluate_reaches (spec.scope document).leaf spec.assertions
    have tells := tells_completed reaches
    rw [← completed] at tells
    rw [eq_of_evaluationStarts split, atLevel_append, atLevel_debug_verdictRecords,
      List.append_nil, atLevel_debug_leafRecords]
    exact ⟨document, spec, reached, _, _, attempt, reaches, rfl, tells⟩

/-- The log tells what was evaluated. An evaluation fails just when it writes records of its error,
and ends with the result if it succeeds. From the start of the assertions on it writes of each leaf
that evaluation from the left reaches and completes, in order, and of no other. -/
theorem evaluateText_recorded (a : Analyzer) (files : Files) :
    a.evaluate files = a.evaluateText files "" ∧ ∀ text,
      let analysis := a.evaluateText files text
      ((∃ error, analysis.result = .error error) ↔ ∃ record ∈ analysis.log, record.level = .error) ∧
      (∀ error, analysis.result = .error error → error.Written (atLevel .error analysis.log)) ∧
      (∀ value, analysis.result = .ok value →
        analysis.log.getLast? = some ⟨.info, "RESULT: " ++ toString value⟩) ∧
      (evaluationStarts ∈ analysis.log ↔
        ∃ verdict : Except AssertionError Bool, analysis.result = verdict.mapError .assertion) ∧
      ∀ before after, analysis.log = before ++ evaluationStarts :: after →
        ∃ document spec reached verdict places,
          a.attempted? files text = some (document, spec) ∧
          AssertionTree.Reaches (spec.scope document).leaf spec.assertions reached verdict ∧
          analysis.result = verdict.mapError .assertion ∧
          Tells (spec.scope document).leaf spec.assertions reached places
            (atLevel .debug after) := by
  refine ⟨rfl, fun text => ?_⟩
  intro analysis
  have ends : a.Ends files text analysis := a.evaluateText_ends files text
  refine ⟨?_, ?_, fun value => ends.getLast?_log, ends.evaluationStarts_mem_iff, ?_⟩
  · simp only [← mem_atLevel, ends.atLevel_error]
    cases analysis.result with
    | ok value => simp [failureRecords]
    | error error => simp [failureRecords, AnalysisError.records]
  · intro error failed
    rw [ends.atLevel_error, failed]
    exact error.records_written
  · intro before after split
    exact ends.tells split

/-- Of four leaves one is skipped and the last one fails, so two are told of. -/
theorem evaluateText_recorded_two :
    let a : Analyzer := { input := some (.mapping [("a", .integer 1)]) }
    let files : Files := fun _ => .error .notFound
    let text := "not equals(a, 2) and (exists(a) or exists(b)) and equals(b, 1)"
    let analysis := a.evaluateText files text
    let after : List Record := [⟨.debug, "equals(a, 2) -> false"⟩, ⟨.debug, "exists(a) -> true"⟩,
      ⟨.error, "operand 'b' of 'equals' matched nothing"⟩]
    analysis.log = analysis.log.take 3 ++ evaluationStarts :: after ∧
      (∃ error, analysis.result = .error error) ∧
      ∃ leaf tree reached places, Tells leaf tree reached places (atLevel .debug after) := by
  intro a files text analysis after
  obtain ⟨fails, _, _, _, tells⟩ := (a.evaluateText_recorded files).2 text
  have written : analysis.log = analysis.log.take 3 ++ evaluationStarts :: after := by
    decide +kernel
  have failed : ∃ record ∈ analysis.log, record.level = .error := by decide +kernel
  obtain ⟨document, spec, reached, _, places, _, _, _, told⟩ := tells _ _ written
  exact ⟨written, fails.mpr failed, _, _, reached, places, told⟩

end Analyzer

end Attest
