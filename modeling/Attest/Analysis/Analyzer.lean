import Attest.Analysis.Session
import Attest.Syntax.Grammar
/-!
# Analyzers

An analyzer keeps a document, a source of assertions and the variables of its last evaluation. Each
evaluation has variables of its own, which replace the kept ones once its declarations are bound.
-/

namespace Attest

inductive Source
  | text (text : String)
  | file (path : String)
  deriving DecidableEq, Repr

structure Analyzer where
  input : Option Node := none
  source : Option Source := none
  store : Store := .empty

/-- An analyzer after an evaluation, the verdict and the records written. -/
structure Analysis where
  analyzer : Analyzer
  result : Except AnalysisError Bool
  log : List Record

namespace Analyzer

def empty : Analyzer := {}

/-- What a new analyzer writes. -/
def greeting : List Record := [⟨.info, "***** Specl Analyser *****"⟩]

/-! ### Input and source -/

/-- Takes a document. Variables of another one are dropped. -/
def setInput (a : Analyzer) (document : Node) : Analyzer :=
  { a with input := some document, store := .empty }

def setJson (a : Analyzer) (text : String) : Except InputError Analyzer :=
  (Node.readJson text).mapError .json |>.map a.setInput

def setXml (a : Analyzer) (text : String) : Except InputError Analyzer :=
  (Node.readXml text).mapError .xml |>.map a.setInput

def setEntries (a : Analyzer) (entries : List (String × Node)) : Analyzer :=
  a.setInput (.mapping entries)

def setSource (a : Analyzer) (text : String) : Analyzer :=
  { a with source := some (.text text) }

/-- Takes a file of assertions, which each evaluation reads. -/
def setSourceFile (a : Analyzer) (path : String) : Analyzer :=
  { a with source := some (.file path) }

/-- The given text, or if it is empty the text of the source. -/
def sourceText (a : Analyzer) (files : Files) (text : String) : Except SourceError String :=
  if !text.isEmpty then .ok text
  else
    match a.source with
    | none => .error .missing
    | some (.text text) => .ok text
    | some (.file path) => (files path).mapError (.unreadable path)

/-! ### Evaluation -/

/-- An evaluation that fails and leaves the analyzer as it is. -/
def refuse (a : Analyzer) (error : AnalysisError) : Analysis :=
  ⟨a, .error error, error.records⟩

/-- What is written before the declarations are bound. -/
def overview (document : Node) (specification : Specification) : List Record := [
  ⟨.debug, "INPUT: " ++ document.text⟩,
  ⟨.info, toString specification.declarations.length ++ " declarations found"⟩,
  ⟨.info, toString specification.assertions.leafCount ++ " assertions found"⟩]

def boundRecord (bound : Declaration × Nat) : Record :=
  ⟨.debug, bound.1.text ++ " -> " ++ toString bound.2 ++ " node(s)"⟩

def leafRecord (leaf : Assertion × Bool) : Record :=
  ⟨.debug, leaf.1.text ++ " -> " ++ toString leaf.2⟩

/-- What is written of the evaluation of a tree. -/
def evaluationRecords (outcome : Outcome) : List Record :=
  ⟨.info, "ASSERTION EVALUATION"⟩ :: outcome.completed.map leafRecord ++
    match outcome.result with
    | .ok value => [⟨.info, "RESULT: " ++ toString value⟩]
    | .error error => (AnalysisError.assertion error).records

/-- Evaluates a specification over a document in a new session. -/
def runSpecification (a : Analyzer) (document : Node) (specification : Specification) : Analysis :=
  let (session, declared) := Session.declare { document } specification.declarations
  let written := overview document specification ++ declared.bound.map boundRecord
  let after := { a with store := session.store }
  match declared.error with
  | some error =>
    let error := AnalysisError.declaration error
    ⟨after, .error error, written ++ error.records⟩
  | none =>
    let outcome := session.evaluate specification.assertions
    ⟨after, outcome.result.mapError .assertion, written ++ evaluationRecords outcome⟩

/-- Evaluates the given text, or if it is empty the source. -/
def evaluateText (a : Analyzer) (files : Files) (text : String) : Analysis :=
  match a.input with
  | none => a.refuse (.input .missing)
  | some document =>
    match a.sourceText files text with
    | .error error => a.refuse (.source error)
    | .ok source =>
      match Specification.parse source with
      | .error errors => a.refuse (.invalid errors.diagnostics)
      | .ok specification => a.runSpecification document specification

def evaluate (a : Analyzer) (files : Files) : Analysis :=
  a.evaluateText files ""

/-! ### Variables -/

def putVariable (a : Analyzer) (name : String) (binding : Binding) : Analyzer :=
  { a with store := a.store.put name binding }

def removeVariable (a : Analyzer) (name : String) : Analyzer :=
  { a with store := a.store.remove name }

end Analyzer

end Attest
