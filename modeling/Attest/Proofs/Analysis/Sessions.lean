import Attest.Analysis.Check
import Attest.Proofs.Analysis.Histories
/-!
# Evaluations as new sessions

Evaluating a text is reading it and running what it says in a new session. What an analyzer went
through before has no part in it, and a check of the same document and text does the same.
-/

namespace Attest

/-- A text that is read and run in a new session over a document: the variables of the session, if
the text can be read, and the verdict. -/
def Session.runText (document : Node) (text : String) : Option Store × Except AnalysisError Bool :=
  match Specification.parse text with
  | .error errors => (none, .error (.invalid errors.diagnostics))
  | .ok specification =>
    let (session, verdict) := Session.run { document } specification
    (some session.store, verdict)

theorem Session.run_of_refused {document : Node} {spec : Specification} {error : DeclarationError}
    (refused : (Store.empty.resolve document spec.declarations).error = some error) :
    Session.run { document } spec = ({ document }, .error (.declaration error)) := by
  simp [run, declare, refused]

/-- What the assertions of a specification see once its declarations are bound. -/
def Specification.scope (spec : Specification) (document : Node) : Scope :=
  ⟨document, (Store.empty.resolve document spec.declarations).store⟩

theorem Session.run_of_bound {document : Node} {spec : Specification}
    (bound : (Store.empty.resolve document spec.declarations).error = none) :
    Session.run { document } spec =
      (⟨document, (spec.scope document).store⟩,
        ((spec.scope document).evaluate spec.assertions).result.mapError .assertion) := by
  simp [run, declare, bound, evaluate, Specification.scope]

theorem Session.runText_of_parse {text : String} {spec : Specification}
    (read : Specification.parse text = .ok spec) (document : Node) :
    Session.runText document text =
      (some (Session.run { document } spec).1.store, (Session.run { document } spec).2) := by
  unfold runText
  rw [read]

/-- The text is one of the document in the format. -/
def InputFormat.Reads (format : InputFormat) (text : String) (document : Node) : Prop :=
  match format with
  | .json => Node.readJson text = .ok document
  | .xml => Node.readXml text = .ok document
  | .map => ∃ entries, Node.readEntries text = .ok entries ∧ document = .mapping entries

namespace Analyzer

variable {a b : Analyzer} {document : Node} {text : String} {files : Files}

/-! ### Evaluations -/

theorem runSpecification_eq_run (a : Analyzer) (document : Node) (specification : Specification) :
    (a.runSpecification document specification).result =
        (Session.run { document } specification).2 ∧
      (a.runSpecification document specification).analyzer =
        { a with store := (Session.run { document } specification).1.store } := by
  unfold runSpecification Session.run
  generalize Session.declare { document } specification.declarations = result
  obtain ⟨session, declared⟩ := result
  dsimp only
  cases declared.error <;> exact ⟨rfl, rfl⟩

theorem evaluateText_eq_runText {source : String} (loaded : a.input = some document)
    (chosen : a.sourceText files text = .ok source) :
    (a.evaluateText files text).result = (Session.runText document source).2 ∧
      (a.evaluateText files text).analyzer =
        { a with store := (Session.runText document source).1.getD a.store } := by
  obtain ⟨input, kept, store⟩ := a
  cases (loaded : input = some document)
  unfold evaluateText Session.runText
  simp only [chosen]
  cases Specification.parse source with
  | error errors => exact ⟨rfl, rfl⟩
  | ok specification => exact runSpecification_eq_run _ document specification

theorem sourceText_of_ne (given : text ≠ "") : a.sourceText files text = .ok text := by
  simp [sourceText, given]

/-- Whether or not it is refused, an evaluation changes variables at most. -/
theorem evaluateText_analyzer (a : Analyzer) (files : Files) (text : String) :
    ∃ store, (a.evaluateText files text).analyzer = { a with store } := by
  cases attempt : a.attempted? files text with
  | none =>
    obtain ⟨error, same, _⟩ := evaluateText_of_not_attempted attempt
    exact ⟨a.store, by rw [same]; rfl⟩
  | some run =>
    rw [evaluateText_of_attempted attempt]
    exact ⟨_, (a.runSpecification_eq_run run.1 run.2).2⟩

/-! ### Variables have no part -/

/-- Two analyzers that differ in their variables at most. -/
structure Alike (a b : Analyzer) : Prop where
  input : a.input = b.input
  source : a.source = b.source

/-- Of an analyzer's variables nothing is seen in what it evaluates. -/
theorem Alike.result (alike : Alike a b) (files : Files) (text : String) :
    (a.evaluateText files text).result = (b.evaluateText files text).result := by
  have sources : a.sourceText files text = b.sourceText files text := by
    unfold sourceText
    rw [alike.source]
  unfold evaluateText
  rw [alike.input, sources]
  cases b.input with
  | none => rfl
  | some document =>
    dsimp only
    cases b.sourceText files text with
    | error error => rfl
    | ok source =>
      dsimp only
      cases Specification.parse source with
      | error errors => rfl
      | ok specification =>
        exact (a.runSpecification_eq_run document specification).1.trans
          (b.runSpecification_eq_run document specification).1.symm

theorem Alike.ofEvaluateText (alike : Alike a b) (files : Files) (text : String) :
    Alike (a.evaluateText files text).analyzer (b.evaluateText files text).analyzer := by
  obtain ⟨_, left⟩ := a.evaluateText_analyzer files text
  obtain ⟨_, right⟩ := b.evaluateText_analyzer files text
  rw [left, right]
  exact ⟨alike.input, alike.source⟩

/-- The same call of two analyzers that differ in their variables leaves two that do. -/
theorem Alike.after (alike : Alike a b) (call : Call) : Alike (a.after call) (b.after call) := by
  have setInput (document : Node) : Alike (a.setInput document) (b.setInput document) :=
    ⟨rfl, alike.source⟩
  cases call with
  | setInput document => exact setInput document
  | setEntries entries => exact setInput (.mapping entries)
  | setJson text =>
    simp only [Analyzer.after, setJson]
    cases Node.readJson text with
    | error error => exact alike
    | ok document => exact setInput document
  | setXml text =>
    simp only [Analyzer.after, setXml]
    cases Node.readXml text with
    | error error => exact alike
    | ok document => exact setInput document
  | setSource text => exact ⟨alike.input, rfl⟩
  | setSourceFile path => exact ⟨alike.input, rfl⟩
  | evaluate files => exact alike.ofEvaluateText files ""
  | evaluateText files text => exact alike.ofEvaluateText files text
  | putVariable name binding => exact ⟨alike.input, alike.source⟩
  | removeVariable name => exact ⟨alike.input, alike.source⟩

/-- A history from which the variables put from outside are taken leaves an analyzer that differs in
its variables at most. -/
theorem Alike.run_filter (alike : Alike a b) (calls : List Call) :
    Alike (a.run (calls.filter fun call => !call.puts)) (b.run calls) := by
  induction calls generalizing a b with
  | nil => exact alike
  | cons call calls ih =>
    cases puts : call.puts with
    | false =>
      rw [List.filter_cons_of_pos (by simp [puts])]
      exact ih (alike.after call)
    | true =>
      rw [List.filter_cons_of_neg (by simp [puts])]
      cases call with
      | putVariable name binding => exact ih ⟨alike.input, alike.source⟩
      | _ => cases puts

end Analyzer

/-! ### Checks -/

/-- The document of a text in the format, or why it is none. -/
def InputFormat.read (format : InputFormat) (text : String) : Except CheckError Node :=
  match format with
  | .json => (Node.readJson text).mapError fun e => .analysis (.input (.json e))
  | .xml => (Node.readXml text).mapError fun e => .analysis (.input (.xml e))
  | .map => (Node.readEntries text).mapError .line |>.map .mapping

theorem mapError_eq_ok_iff {α ε δ : Type} {x : Except ε α} {f : ε → δ} {a : α} :
    x.mapError f = .ok a ↔ x = .ok a := by
  cases x with
  | ok b =>
    change Except.ok b = Except.ok a ↔ _
    rw [Except.ok.injEq, Except.ok.injEq]
  | error e => exact ⟨nofun, nofun⟩

theorem InputFormat.reads_iff {format : InputFormat} {text : String} {document : Node} :
    format.Reads text document ↔ format.read text = .ok document := by
  unfold Reads read
  cases format with
  | json => exact mapError_eq_ok_iff.symm
  | xml => exact mapError_eq_ok_iff.symm
  | map =>
    cases Node.readEntries text with
    | ok entries =>
      constructor
      · rintro ⟨_, read, rfl⟩
        cases read
        rfl
      · intro same
        exact ⟨entries, rfl, (Except.ok.inj same).symm⟩
    | error error => exact ⟨nofun, nofun⟩

theorem CheckOptions.prepare_eq {o : CheckOptions} {text : String} (input : o.input = some text) :
    o.prepare = (o.format.read text).map fun document =>
      { input := some document, source := o.chosenSource? } := by
  unfold prepare InputFormat.read
  rw [input]
  cases o.format with
  | json =>
    simp only [Analyzer.setJson]
    cases Node.readJson text <;> rfl
  | xml =>
    simp only [Analyzer.setXml]
    cases Node.readXml text <;> rfl
  | map =>
    dsimp only
    cases Node.readEntries text <;> rfl

theorem CheckOptions.prepare_eq_ok {o : CheckOptions} {document : Node} {text : String}
    (input : o.input = some text) (reads : o.format.Reads text document) :
    o.prepare = .ok { input := some document, source := o.chosenSource? } := by
  rw [prepare_eq input, InputFormat.reads_iff.mp reads]
  rfl

/-- The result of a check that evaluates, by what a text evaluates to. -/
def CheckResult.ofRun : Option Store × Except AnalysisError Bool → Except CheckError CheckResult
  | (store, .ok passed) => .ok (.evaluated passed (store.getD .empty))
  | (_, .error error) => .error (.analysis error)

/-- A check whose source has the text evaluates it as a new session over the document does. -/
theorem CheckOptions.run_eq_runText {o : CheckOptions} {document : Node} {text inputText : String}
    {files : Files} (evaluates : o.syntaxOnly = false) (input : o.input = some inputText)
    (reads : o.format.Reads inputText document)
    (chosen : Analyzer.sourceText { input := some document, source := o.chosenSource? } files "" =
      .ok text) :
    (o.run files).1 = CheckResult.ofRun (Session.runText document text) := by
  have evaluated := Analyzer.evaluateText_eq_runText rfl chosen
  simp only [CheckOptions.run, evaluates, prepare_eq_ok input reads, Analyzer.evaluate, evaluated.1,
    evaluated.2]
  obtain ⟨store, error | passed⟩ := Session.runText document text <;> rfl

/-! ### Agreement -/

open Analyzer in
/-- Whatever an analyzer went through, it evaluates a text as a new session over its document does,
and keeps the variables of that session. Where the document is read from an input, a check of the
input and the text gives the same. No variable put from outside at any time changes what is
evaluated. -/
theorem Analyzer.evaluateText_agrees (calls : List Call) (files : Files) :
    let a := empty.run calls
    (∀ (document : Node) (text : String), a.input = some document → text ≠ "" →
      let session := Session.runText document text
      (a.evaluateText files text).result = session.2 ∧
        (a.evaluateText files text).analyzer.store = session.1.getD a.store ∧
        ∀ (o : CheckOptions) (inputText : String), o.syntaxOnly = false → o.source = some text →
          o.input = some inputText → o.format.Reads inputText document →
            (o.run files).1 = CheckResult.ofRun session) ∧
      ∀ text, (a.evaluateText files text).result =
        ((empty.run (calls.filter fun call => !call.puts)).evaluateText files text).result := by
  intro a
  refine ⟨fun document text loaded given => ?_, fun text => ?_⟩
  · have chosen : a.sourceText files text = .ok text := sourceText_of_ne given
    have evaluated := evaluateText_eq_runText loaded chosen
    refine ⟨evaluated.1, by rw [evaluated.2], fun o inputText evaluates source input reads => ?_⟩
    have inline : o.chosenSource? = some (.text text) := by rw [CheckOptions.chosenSource?, source]
    exact CheckOptions.run_eq_runText evaluates input reads (inline ▸ rfl)
  · have alike : Alike empty empty := ⟨rfl, rfl⟩
    exact ((alike.run_filter calls).result files text).symm

/-- A document with a repeated key and an integer is evaluated as any other, whether or not there is
an input that is read into it. For one that an input is read into the check agrees. -/
theorem Analyzer.evaluateText_agrees_put :
    let files : Files := fun _ => .error .notFound
    let put : Call := .putVariable "s" ⟨[.string "no"]⟩
    let repeated : Node := .mapping [("a", .integer 1), ("a", .string "no")]
    let single : Node := .mapping [("status", .string "ok")]
    let text := "let s = status; equals(s, \"ok\")"
    let o : CheckOptions :=
      { source := some text, input := some "status=ok", format := .map }
    ((empty.run [.setInput repeated, put]).input = some repeated ∧
        ((empty.run [.setInput repeated, put]).evaluateText files "exists(a[0])").result.toOption =
          some true) ∧
      (empty.run [.setInput single, put]).input = some single ∧ text ≠ "" ∧
      o.format.Reads "status=ok" single ∧
      ((empty.run [.setInput single, put]).evaluateText files text).result.toOption = some true ∧
      (o.run files).1 = CheckResult.ofRun (Session.runText single text) := by
  intro files put repeated single text o
  have given : text ≠ "" := by decide
  have reads : o.format.Reads "status=ok" single := ⟨[("status", .string "ok")], by rfl, rfl⟩
  have first := (Analyzer.evaluateText_agrees [.setInput repeated, put] files).1
    repeated "exists(a[0])" rfl (by decide)
  have second := (Analyzer.evaluateText_agrees [.setInput single, put] files).1
    single text rfl given
  refine ⟨⟨rfl, ?_⟩, rfl, given, reads, ?_, ?_⟩
  · rw [first.1]
    decide +kernel
  · rw [second.1]
    decide +kernel
  · exact second.2.2 o "status=ok" rfl rfl rfl reads

end Attest
