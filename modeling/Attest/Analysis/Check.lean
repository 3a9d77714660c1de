import Attest.Analysis.Analyzer
import Attest.Document.KeyValue
/-!
# Checks

A check evaluates assertions over an input, or only reads them. Its errors tell with which code a
program ends.
-/

namespace Attest

inductive InputFormat
  | json
  | xml
  | map
  deriving DecidableEq, Repr

structure CheckOptions where
  source : Option String := none
  /-- Read if there is no source. -/
  sourceFile : Option String := none
  input : Option String := none
  format : InputFormat := .json
  syntaxOnly : Bool := false

inductive CheckResult
  | readable (declarations assertions : Nat)
  | evaluated (passed : Bool) (store : Store)

inductive CheckError
  | analysis (error : AnalysisError)
  | unreadable (error : ReadError)
  | line (error : KeyValueError)
  deriving DecidableEq, Repr

/-! ### Exit codes -/

namespace ExitCode

def pass : UInt32 := 0
def error : UInt32 := 1
def fail : UInt32 := 2
def usage : UInt32 := 3

end ExitCode

namespace CheckError

def message : CheckError → String
  | analysis error => error.message
  | unreadable error => "IO error: " ++ error.message
  | line error => error.message

def diagnostics : CheckError → List Diagnostic
  | analysis error => error.diagnostics
  | _ => []

/-- Input and source that cannot be used are told apart from errors within them. -/
def exitCode : CheckError → UInt32
  | analysis (.input _) | analysis (.source _) | unreadable _ | line _ => ExitCode.usage
  | analysis _ => ExitCode.error

end CheckError

namespace CheckOptions

def chosenSource? (o : CheckOptions) : Option Source :=
  match o.source, o.sourceFile with
  | some text, _ => some (.text text)
  | none, some path => some (.file path)
  | none, none => none

/-- The analyzer with the source, and with the input in its format. -/
def prepare (o : CheckOptions) : Except CheckError Analyzer :=
  let a : Analyzer := { source := o.chosenSource? }
  match o.input, o.format with
  | none, _ => .ok a
  | some text, .json => (a.setJson text).mapError fun e => .analysis (.input e)
  | some text, .xml => (a.setXml text).mapError fun e => .analysis (.input e)
  | some text, .map => (Node.readEntries text).mapError .line |>.map a.setEntries

def checkSyntax (o : CheckOptions) (files : Files) : Except CheckError CheckResult :=
  let a : Analyzer := { source := o.chosenSource? }
  let text : Except SourceError String := match o.source with
    | some text => .ok text
    | none => a.sourceText files ""
  match text with
  | .error error => .error (.analysis (.source error))
  | .ok text =>
    match Specification.parse text with
    | .error errors => .error (.analysis (.invalid errors.diagnostics))
    | .ok s => .ok (.readable s.declarations.length s.assertions.leafCount)

/-- The records of an input that cannot be used. Lines of keys and values leave none. -/
def inputRecords : CheckError → List Record
  | .analysis error => error.records
  | _ => []

/-- Runs the check, and gives the records written. -/
def run (o : CheckOptions) (files : Files) : Except CheckError CheckResult × List Record :=
  if o.syntaxOnly then (o.checkSyntax files, [])
  else
    match o.prepare with
    | .error error => (.error error, Analyzer.greeting ++ inputRecords error)
    | .ok a =>
      let analysis := a.evaluate files
      let result := match analysis.result with
        | .ok passed => .ok (.evaluated passed analysis.analyzer.store)
        | .error error => .error (.analysis error)
      (result, Analyzer.greeting ++ analysis.log)

end CheckOptions

end Attest
