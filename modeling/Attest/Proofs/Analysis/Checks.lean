import Attest.CommandLine
import Attest.Proofs.Analysis.Sessions
/-!
# Checks

A check that only reads a source and one that evaluates it agree on the source, and each cause for
which an evaluation ends has its exit code.
-/

namespace Attest

/-- The error is one of the source: it cannot be read, or it cannot be parsed. -/
def CheckError.OfSource : CheckError → Prop
  | .analysis (.source _) | .analysis (.invalid _) => True
  | _ => False

namespace CheckOptions

/-- The text that is checked: the given one, or that of the file. -/
def readSource (o : CheckOptions) (files : Files) : Except SourceError String :=
  match o.source, o.sourceFile with
  | some text, _ => .ok text
  | none, some path => (files path).mapError (.unreadable path)
  | none, none => .error .missing

/-- The input is given, and it is one of the document in its format. -/
def Loads (o : CheckOptions) (document : Node) : Prop :=
  ∃ text, o.input = some text ∧ o.format.Reads text document

/-- The source can be read, and it is parsed. -/
def Parses (o : CheckOptions) (files : Files) (spec : Specification) : Prop :=
  ∃ text, o.readSource files = .ok text ∧ Specification.parse text = .ok spec

/-- Nothing can be evaluated: the input is missing or invalid, or the source cannot be read. -/
def Unusable (o : CheckOptions) (files : Files) : Prop :=
  (∀ document, ¬ o.Loads document) ∨ ∃ error, o.readSource files = .error error

/-- What an input and a source that can be used are refused for. -/
inductive Faulty (o : CheckOptions) (files : Files) : Prop
  | source {document : Node} {text : String} {errors : SyntaxErrors} (loads : o.Loads document)
      (read : o.readSource files = .ok text) (invalid : Specification.parse text = .error errors)
  | declaration {document : Node} {spec : Specification} {error : DeclarationError}
      (loads : o.Loads document) (parses : o.Parses files spec)
      (refused : (Store.empty.resolve document spec.declarations).error = some error)
  | assertion {document : Node} {spec : Specification} {error : AssertionError}
      (loads : o.Loads document) (parses : o.Parses files spec)
      (bound : (Store.empty.resolve document spec.declarations).error = none)
      (failed : ((spec.scope document).evaluate spec.assertions).result = .error error)

/-- The assertions are evaluated, and the tree of them is true or false. -/
def Evaluates (o : CheckOptions) (files : Files) (passed : Bool) : Prop :=
  ∃ document spec, o.Loads document ∧ o.Parses files spec ∧
    (Store.empty.resolve document spec.declarations).error = none ∧
    ((spec.scope document).evaluate spec.assertions).result = .ok passed

variable {o : CheckOptions} {files : Files} {document : Node}

/-! ### Reading only -/

theorem sourceText_eq_readSource (o : CheckOptions) (files : Files) (input : Option Node) :
    Analyzer.sourceText { input, source := o.chosenSource? } files "" = o.readSource files := by
  unfold Analyzer.sourceText chosenSource? readSource
  cases o.source with
  | some text => rfl
  | none =>
    cases o.sourceFile with
    | some path => rfl
    | none => rfl

theorem checkSyntax_eq (o : CheckOptions) (files : Files) :
    o.checkSyntax files =
      match o.readSource files with
      | .error error => .error (.analysis (.source error))
      | .ok text =>
        match Specification.parse text with
        | .error errors => .error (.analysis (.invalid errors.diagnostics))
        | .ok spec => .ok (.readable spec.declarations.length spec.assertions.leafCount) := by
  unfold checkSyntax
  cases given : o.source with
  | some text =>
    have read : o.readSource files = .ok text := by rw [readSource, given]
    exact read ▸ rfl
  | none => exact sourceText_eq_readSource o files none ▸ rfl

theorem checkSyntax_eq_ok_iff {result : CheckResult} :
    o.checkSyntax files = .ok result ↔
      ∃ spec, o.Parses files spec ∧
        result = .readable spec.declarations.length spec.assertions.leafCount := by
  rw [checkSyntax_eq]
  cases read : o.readSource files with
  | error error =>
    refine ⟨nofun, fun ⟨spec, ⟨text, read', _⟩, _⟩ => ?_⟩
    cases read.symm.trans read'
  | ok text =>
    dsimp only
    cases parsed : Specification.parse text with
    | error errors =>
      refine ⟨nofun, fun ⟨spec, ⟨text', read', parsed'⟩, _⟩ => ?_⟩
      cases read.symm.trans read'
      cases parsed.symm.trans parsed'
    | ok spec =>
      constructor
      · intro same
        exact ⟨spec, ⟨text, read, parsed⟩, (Except.ok.inj same).symm⟩
      · rintro ⟨spec', ⟨text', read', parsed'⟩, rfl⟩
        cases read.symm.trans read'
        cases parsed.symm.trans parsed'
        rfl

theorem ofSource_of_checkSyntax {error : CheckError} (refused : o.checkSyntax files = .error error) :
    error.OfSource := by
  rw [checkSyntax_eq] at refused
  split at refused
  · cases refused
    trivial
  · split at refused
    · cases refused
      trivial
    · cases refused

/-! ### Evaluating -/

theorem run_of_prepare (evaluates : o.syntaxOnly = false) {error : CheckError}
    (refused : o.prepare = .error error) : (o.run files).1 = .error error := by
  unfold run
  rw [evaluates, refused]
  rfl

/-- Whatever the format, an input that is not read is one that cannot be used. -/
theorem exitCode_of_read {format : InputFormat} {text : String} {error : CheckError}
    (refused : format.read text = .error error) :
    error.exitCode = ExitCode.usage ∧ ¬ error.OfSource := by
  unfold InputFormat.read at refused
  cases format with
  | json =>
    cases read : Node.readJson text <;> simp only [read] at refused <;> cases refused
    exact ⟨rfl, id⟩
  | xml =>
    cases read : Node.readXml text <;> simp only [read] at refused <;> cases refused
    exact ⟨rfl, id⟩
  | map =>
    cases read : Node.readEntries text <;> simp only [read] at refused <;> cases refused
    exact ⟨rfl, id⟩

/-- An input that is missing or invalid ends the check as one that cannot be used. -/
theorem run_of_not_loads (evaluates : o.syntaxOnly = false)
    (unloaded : ∀ document, ¬ o.Loads document) :
    ∃ error, (o.run files).1 = .error error ∧ error.exitCode = ExitCode.usage ∧
      ¬ error.OfSource := by
  cases input : o.input with
  | none =>
    refine ⟨.analysis (.input .missing), ?_, rfl, id⟩
    have prepared : o.prepare = .ok { source := o.chosenSource? } := by
      unfold prepare
      rw [input]
    unfold run
    rw [evaluates, prepared]
    rfl
  | some text =>
    cases read : o.format.read text with
    | ok document => exact absurd ⟨text, input, InputFormat.reads_iff.mpr read⟩ (unloaded document)
    | error error =>
      obtain ⟨code, notSource⟩ := exitCode_of_read read
      refine ⟨error, run_of_prepare evaluates ?_, code, notSource⟩
      rw [prepare_eq input, read]
      rfl

theorem run_of_loads (evaluates : o.syntaxOnly = false) (loads : o.Loads document)
    (files : Files) :
    (o.run files).1 =
      match o.readSource files with
      | .error error => .error (.analysis (.source error))
      | .ok text => CheckResult.ofRun (Session.runText document text) := by
  obtain ⟨inputText, input, reads⟩ := loads
  have sources := sourceText_eq_readSource o files (some document)
  cases read : o.readSource files with
  | error error =>
    rw [read] at sources
    simp [run, evaluates, prepare_eq_ok input reads, Analyzer.evaluate, Analyzer.evaluateText,
      sources, Analyzer.refuse]
  | ok text => exact run_eq_runText evaluates input reads (sources.trans read)

theorem run_of_parses (evaluates : o.syntaxOnly = false) (loads : o.Loads document)
    {spec : Specification} (parses : o.Parses files spec) :
    (o.run files).1 =
      CheckResult.ofRun (some (Session.run { document } spec).1.store,
        (Session.run { document } spec).2) := by
  obtain ⟨text, read, parsed⟩ := parses
  rw [run_of_loads evaluates loads, read, ← Session.runText_of_parse parsed]

theorem run_of_refused (evaluates : o.syntaxOnly = false) (loads : o.Loads document)
    {spec : Specification} (parses : o.Parses files spec) {error : DeclarationError}
    (refused : (Store.empty.resolve document spec.declarations).error = some error) :
    (o.run files).1 = .error (.analysis (.declaration error)) := by
  rw [run_of_parses evaluates loads parses, Session.run_of_refused refused]
  rfl

theorem run_of_bound (evaluates : o.syntaxOnly = false) (loads : o.Loads document)
    {spec : Specification} (parses : o.Parses files spec)
    (bound : (Store.empty.resolve document spec.declarations).error = none) :
    (o.run files).1 =
      match ((spec.scope document).evaluate spec.assertions).result with
      | .ok passed => .ok (.evaluated passed (spec.scope document).store)
      | .error error => .error (.analysis (.assertion error)) := by
  rw [run_of_parses evaluates loads parses, Session.run_of_bound bound]
  cases ((spec.scope document).evaluate spec.assertions).result with
  | ok passed => rfl
  | error error => rfl

/-- With a valid input the errors of the source are those of reading only. -/
theorem run_of_source_error (evaluates : o.syntaxOnly = false) (loads : o.Loads document)
    {error : CheckError} (source : error.OfSource) :
    (o.run files).1 = .error error ↔ o.checkSyntax files = .error error := by
  rw [checkSyntax_eq]
  cases read : o.readSource files with
  | error failure => rw [run_of_loads evaluates loads, read]
  | ok text =>
    dsimp only
    cases parsed : Specification.parse text with
    | error errors =>
      rw [run_of_loads evaluates loads, read]
      simp only [Session.runText, parsed]
      rfl
    | ok spec =>
      -- What is parsed is refused for its declarations or assertions at most.
      have parses : o.Parses files spec := ⟨text, read, parsed⟩
      refine ⟨fun failed => ?_, nofun⟩
      cases declared : (Store.empty.resolve document spec.declarations).error with
      | some refusal =>
        rw [run_of_refused evaluates loads parses declared] at failed
        cases failed
        cases source
      | none =>
        rw [run_of_bound evaluates loads parses declared] at failed
        split at failed
        · cases failed
        · cases failed
          cases source

/-! ### How an evaluation ends -/

/-- An evaluation ends for one of three reasons. -/
theorem unusable_or_faulty_or_evaluates (o : CheckOptions) (files : Files) :
    o.Unusable files ∨ o.Faulty files ∨ ∃ passed, o.Evaluates files passed := by
  by_cases loaded : ∃ document, o.Loads document
  · obtain ⟨document, loads⟩ := loaded
    cases read : o.readSource files with
    | error error => exact .inl (.inr ⟨error, read⟩)
    | ok text =>
      cases parsed : Specification.parse text with
      | error errors => exact .inr (.inl (.source loads read parsed))
      | ok spec =>
        have parses : o.Parses files spec := ⟨text, read, parsed⟩
        cases declared : (Store.empty.resolve document spec.declarations).error with
        | some error => exact .inr (.inl (.declaration loads parses declared))
        | none =>
          cases verdict : ((spec.scope document).evaluate spec.assertions).result with
          | error error => exact .inr (.inl (.assertion loads parses declared verdict))
          | ok passed => exact .inr (.inr ⟨passed, document, spec, loads, parses, declared, verdict⟩)
  · exact .inl (.inl fun document loads => loaded ⟨document, loads⟩)

theorem run_of_unusable (evaluates : o.syntaxOnly = false) (unusable : o.Unusable files) :
    ∃ error, (o.run files).1 = .error error ∧ error.exitCode = ExitCode.usage := by
  by_cases loaded : ∃ document, o.Loads document
  · obtain ⟨document, loads⟩ := loaded
    rcases unusable with unloaded | ⟨error, read⟩
    · exact absurd loads (unloaded document)
    · refine ⟨.analysis (.source error), ?_, rfl⟩
      rw [run_of_loads evaluates loads, read]
  · have unloaded : ∀ document, ¬ o.Loads document := fun document loads => loaded ⟨document, loads⟩
    obtain ⟨error, ended, code, _⟩ := run_of_not_loads evaluates unloaded
    exact ⟨error, ended, code⟩

theorem run_of_faulty (evaluates : o.syntaxOnly = false) (faulty : o.Faulty files) :
    ∃ error, (o.run files).1 = .error error ∧ error.exitCode = ExitCode.error := by
  cases faulty with
  | @source document text errors loads read invalid =>
    refine ⟨.analysis (.invalid errors.diagnostics), ?_, rfl⟩
    rw [run_of_loads evaluates loads, read]
    simp only [Session.runText, invalid]
    rfl
  | declaration loads parses refused =>
    exact ⟨_, run_of_refused evaluates loads parses refused, rfl⟩
  | assertion loads parses bound failed =>
    have ended := run_of_bound evaluates loads parses bound
    rw [failed] at ended
    exact ⟨_, ended, rfl⟩

theorem run_of_evaluates (evaluates : o.syntaxOnly = false) {passed : Bool}
    (evaluated : o.Evaluates files passed) :
    ∃ store, (o.run files).1 = .ok (.evaluated passed store) := by
  obtain ⟨document, spec, loads, parses, bound, verdict⟩ := evaluated
  refine ⟨(spec.scope document).store, ?_⟩
  rw [run_of_bound evaluates loads parses bound, verdict]

/-- The code that a check ends with. -/
def exitCode : Except CheckError CheckResult → UInt32
  | .ok (.readable _ _) => ExitCode.pass
  | .ok (.evaluated passed _) => if passed then ExitCode.pass else ExitCode.fail
  | .error error => error.exitCode

theorem exitCode_iff (evaluates : o.syntaxOnly = false) (files : Files) :
    (exitCode (o.run files).1 = ExitCode.pass ↔ o.Evaluates files true) ∧
      (exitCode (o.run files).1 = ExitCode.fail ↔ o.Evaluates files false) ∧
      (exitCode (o.run files).1 = ExitCode.error ↔ o.Faulty files) ∧
      (exitCode (o.run files).1 = ExitCode.usage ↔ o.Unusable files) := by
  have onEvaluates (passed : Bool) (evaluated : o.Evaluates files passed) :
      exitCode (o.run files).1 = if passed then ExitCode.pass else ExitCode.fail := by
    obtain ⟨store, ended⟩ := run_of_evaluates evaluates evaluated
    rw [ended, exitCode]
  have onFaulty (faulty : o.Faulty files) : exitCode (o.run files).1 = ExitCode.error := by
    obtain ⟨error, ended, code⟩ := run_of_faulty evaluates faulty
    rw [ended, exitCode, code]
  have onUnusable (unusable : o.Unusable files) : exitCode (o.run files).1 = ExitCode.usage := by
    obtain ⟨error, ended, code⟩ := run_of_unusable evaluates unusable
    rw [ended, exitCode, code]
  have causes : (exitCode (o.run files).1 = ExitCode.usage ∧ o.Unusable files) ∨
      (exitCode (o.run files).1 = ExitCode.error ∧ o.Faulty files) ∨
      (exitCode (o.run files).1 = ExitCode.fail ∧ o.Evaluates files false) ∨
      (exitCode (o.run files).1 = ExitCode.pass ∧ o.Evaluates files true) := by
    rcases o.unusable_or_faulty_or_evaluates files with unusable | faulty | ⟨passed, evaluated⟩
    · exact .inl ⟨onUnusable unusable, unusable⟩
    · exact .inr (.inl ⟨onFaulty faulty, faulty⟩)
    · cases passed with
      | false => exact .inr (.inr (.inl ⟨onEvaluates false evaluated, evaluated⟩))
      | true => exact .inr (.inr (.inr ⟨onEvaluates true evaluated, evaluated⟩))
  refine ⟨⟨fun code => ?_, onEvaluates true⟩, ⟨fun code => ?_, onEvaluates false⟩,
    ⟨fun code => ?_, onFaulty⟩, ⟨fun code => ?_, onUnusable⟩⟩
  -- Another cause would have come with another code.
  all_goals
    rcases causes with ⟨other, cause⟩ | ⟨other, cause⟩ | ⟨other, cause⟩ | ⟨other, cause⟩
    all_goals first
      | exact cause
      | exact absurd (other.symm.trans code) (by decide)

end CheckOptions

/-! ### Exit codes -/

namespace CheckCommand

variable {c : CheckCommand} {files : Files} {stdin : StandardInput}

/-- The check that a command runs on an input. -/
def options (c : CheckCommand) (input : Option String) : CheckOptions where
  source := c.source
  sourceFile := c.sourceFile
  input := input
  format := c.format
  syntaxOnly := c.syntaxOnly

theorem exit_of_unreadable {error : ReadError} (unreadable : c.inputText files stdin = .error error) :
    (c.run files stdin).exit = ExitCode.usage := by
  unfold run
  rw [unreadable]
  rfl

theorem exit_of_inputText {input : Option String} (read : c.inputText files stdin = .ok input) :
    (c.run files stdin).exit = CheckOptions.exitCode ((c.options input).run files).1 := by
  have checked : CheckOptions.run ⟨c.source, c.sourceFile, input, c.format, c.syntaxOnly⟩ files =
      (c.options input).run files := rfl
  unfold run
  rw [read]
  dsimp only
  rw [checked]
  cases ((c.options input).run files).1 with
  | error error => rfl
  | ok result =>
    cases result with
    | readable declarations assertions => rfl
    | evaluated passed store => rfl

/-- The code of a command is that of its check, unless there is no input to read. -/
theorem exit_eq_iff (c : CheckCommand) (files : Files) (stdin : StandardInput) (exit : UInt32) :
    (c.run files stdin).exit = exit ↔
      ((∃ error, c.inputText files stdin = .error error) ∧ exit = ExitCode.usage) ∨
        ∃ input, c.inputText files stdin = .ok input ∧
          CheckOptions.exitCode ((c.options input).run files).1 = exit := by
  cases read : c.inputText files stdin with
  | error error =>
    rw [exit_of_unreadable read]
    constructor
    · intro code
      exact .inl ⟨⟨error, rfl⟩, code.symm⟩
    · rintro (⟨_, code⟩ | ⟨input, read', _⟩)
      · exact code.symm
      · cases read'
  | ok input =>
    rw [exit_of_inputText read]
    constructor
    · intro code
      exact .inr ⟨input, rfl, code⟩
    · rintro (⟨⟨error, read'⟩, _⟩ | ⟨input', read', code⟩)
      · cases read'
      · cases read'
        exact code

/-- The command has an input to read, and the check of it ends for the cause. -/
def Ends (c : CheckCommand) (files : Files) (stdin : StandardInput) (cause : CheckOptions → Prop) :
    Prop :=
  ∃ input, c.inputText files stdin = .ok input ∧ cause (c.options input)

/-- An evaluation passes or fails as its tree is true or false, ends as an error for one of syntax,
declarations or assertions, and as wrongly used if there is no input or source to use. -/
theorem exit_iff (evaluates : c.syntaxOnly = false) (files : Files) (stdin : StandardInput) :
    ((c.run files stdin).exit = ExitCode.pass ↔ c.Ends files stdin (·.Evaluates files true)) ∧
      ((c.run files stdin).exit = ExitCode.fail ↔ c.Ends files stdin (·.Evaluates files false)) ∧
      ((c.run files stdin).exit = ExitCode.error ↔ c.Ends files stdin (·.Faulty files)) ∧
      ((c.run files stdin).exit = ExitCode.usage ↔
        (∃ error, c.inputText files stdin = .error error) ∨
          c.Ends files stdin (·.Unusable files)) := by
  have codes (input : Option String) :=
    CheckOptions.exitCode_iff (show (c.options input).syntaxOnly = false from evaluates) files
  have ends {exit : UInt32} {cause : CheckOptions → Prop} (other : exit ≠ ExitCode.usage)
      (tells : ∀ input,
        CheckOptions.exitCode ((c.options input).run files).1 = exit ↔ cause (c.options input)) :
      (c.run files stdin).exit = exit ↔ c.Ends files stdin cause := by
    rw [exit_eq_iff]
    simp only [other, and_false, false_or, tells, Ends]
  refine ⟨ends (by decide) fun input => (codes input).1,
    ends (by decide) fun input => (codes input).2.1,
    ends (by decide) fun input => (codes input).2.2.1, ?_⟩
  rw [exit_eq_iff]
  simp only [and_true, fun input => (codes input).2.2.2, Ends]

end CheckCommand

/-- A check that only reads a source succeeds exactly if it can be read and parsed. With a valid
input an evaluation has the errors of the source that reading only has, and no others of the source.
Its code tells what it came to: of the check itself, and of a command that reads the input. -/
theorem CheckOptions.run_agrees :
    (∀ (o : CheckOptions) (files : Files) (declarations assertions : Nat),
      ({ o with syntaxOnly := true }.run files).1 = .ok (.readable declarations assertions) ↔
        ∃ spec, o.Parses files spec ∧ declarations = spec.declarations.length ∧
          assertions = spec.assertions.leafCount) ∧
    (∀ (o : CheckOptions) (files : Files) (document : Node), o.Loads document →
      ∀ error,
        (({ o with syntaxOnly := true }.run files).1 = .error error →
          ({ o with syntaxOnly := false }.run files).1 = .error error) ∧
        (({ o with syntaxOnly := false }.run files).1 = .error error → error.OfSource →
          ({ o with syntaxOnly := true }.run files).1 = .error error)) ∧
    (∀ (o : CheckOptions) (files : Files), o.syntaxOnly = false →
      (exitCode (o.run files).1 = ExitCode.pass ↔ o.Evaluates files true) ∧
      (exitCode (o.run files).1 = ExitCode.fail ↔ o.Evaluates files false) ∧
      (exitCode (o.run files).1 = ExitCode.error ↔ o.Faulty files) ∧
      (exitCode (o.run files).1 = ExitCode.usage ↔ o.Unusable files)) ∧
    ∀ (c : CheckCommand) (files : Files) (stdin : StandardInput), c.syntaxOnly = false →
      ((c.run files stdin).exit = ExitCode.pass ↔ c.Ends files stdin (·.Evaluates files true)) ∧
      ((c.run files stdin).exit = ExitCode.fail ↔ c.Ends files stdin (·.Evaluates files false)) ∧
      ((c.run files stdin).exit = ExitCode.error ↔ c.Ends files stdin (·.Faulty files)) ∧
      ((c.run files stdin).exit = ExitCode.usage ↔
        (∃ error, c.inputText files stdin = .error error) ∨
          c.Ends files stdin (·.Unusable files)) := by
  refine ⟨fun o files declarations assertions => ?_, fun o files document loads error => ?_,
    fun o files evaluates => exitCode_iff evaluates files,
    fun c files stdin evaluates => CheckCommand.exit_iff evaluates files stdin⟩
  · change o.checkSyntax files = .ok (.readable declarations assertions) ↔ _
    rw [checkSyntax_eq_ok_iff]
    simp only [CheckResult.readable.injEq]
  · have same {error : CheckError} (source : error.OfSource) :
        ({ o with syntaxOnly := false }.run files).1 = .error error ↔
          o.checkSyntax files = .error error :=
      run_of_source_error (o := { o with syntaxOnly := false }) rfl loads source
    exact ⟨fun refused => (same (ofSource_of_checkSyntax refused)).mpr refused,
      fun refused source => (same source).mp refused⟩

/-- A source that breaks off is refused with and without an input. A command that reads its input
from a file passes, and one that has nothing but a terminal to read it from is wrongly used. -/
theorem CheckOptions.run_agrees_sample :
    let files : Files := fun path => if path = "input" then .ok "a=1" else .error .notFound
    let o : CheckOptions := { source := some "exists(", input := some "a=1", format := .map }
    let c : CheckCommand :=
      { source := some "exists(a)", inputFile := some "input", format := .map }
    let without : CheckCommand := { c with inputFile := none }
    o.Loads (.mapping [("a", .string "1")]) ∧
      (∃ error : CheckError, error.OfSource ∧
        ({ o with syntaxOnly := true }.run files).1 = .error error ∧
        ({ o with syntaxOnly := false }.run files).1 = .error error) ∧
      c.syntaxOnly = false ∧ (c.run files .terminal).exit = ExitCode.pass ∧
      c.Ends files .terminal (·.Evaluates files true) ∧
      (without.run files .terminal).exit = ExitCode.usage ∧
      without.Ends files .terminal (·.Unusable files) := by
  intro files o c without
  have loads : o.Loads (.mapping [("a", .string "1")]) :=
    ⟨"a=1", rfl, [("a", .string "1")], by rfl, rfl⟩
  have refused : (o.checkSyntax files).toOption.isNone := by decide +kernel
  have passes : (c.run files .terminal).exit = ExitCode.pass := by decide +kernel
  have stops : (without.run files .terminal).exit = ExitCode.usage := by decide +kernel
  obtain ⟨_, agrees, _, codes⟩ := CheckOptions.run_agrees
  refine ⟨loads, ?_, rfl, passes, (codes c files .terminal rfl).1.mp passes, stops, ?_⟩
  · cases read : o.checkSyntax files with
    | ok result =>
      rw [read] at refused
      cases refused
    | error error =>
      exact ⟨error, ofSource_of_checkSyntax read, read, (agrees o files _ loads error).1 read⟩
  · rcases (codes without files .terminal rfl).2.2.2.mp stops with ⟨_, unread⟩ | ends
    · cases unread
    · exact ends

end Attest
