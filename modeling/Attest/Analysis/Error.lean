import Attest.Document.Json
import Attest.Document.Xml
import Attest.Evaluation.Predicate
import Attest.Evaluation.Store
import Attest.Syntax.Tree
import Attest.Analysis.Files
/-!
# Errors of an analysis

Why assertions could not be evaluated, by the stage that failed, and the records written of it.
-/

namespace Attest

inductive InputError
  | missing
  | json (error : JsonError)
  | xml (error : XmlError)
  deriving DecidableEq, Repr

namespace InputError

def message : InputError → String
  | missing => "Input not found or not defined"
  | json error => "invalid JSON input: " ++ error.message
  | xml error => "invalid XML input: " ++ error.message

end InputError

inductive SourceError
  | missing
  | unreadable (path : String) (error : ReadError)
  deriving DecidableEq, Repr

namespace SourceError

def message : SourceError → String
  | missing =>
    "Assertions not found or not defined. " ++
    "Please pass a string or the path of the file containing them."
  | unreadable path error => "cannot read assertions from " ++ path ++ ": " ++ error.message

end SourceError

inductive AnalysisError
  | input (error : InputError)
  | source (error : SourceError)
  | invalid (diagnostics : List Diagnostic)
  | declaration (error : DeclarationError)
  | assertion (error : AssertionError)
  deriving DecidableEq, Repr

namespace AnalysisError

def message : AnalysisError → String
  | input error => error.message
  | source error => error.message
  | invalid diagnostics => "SYNTAX ERRORS: " ++ toString diagnostics.length ++ " found"
  | declaration error => error.message
  | assertion error => error.message

def diagnostics : AnalysisError → List Diagnostic
  | invalid diagnostics => diagnostics
  | _ => []

end AnalysisError

/-! ### Records -/

inductive Level
  | error
  | warn
  | info
  | debug
  deriving DecidableEq, Repr

namespace Level

def name : Level → String
  | error => "ERROR"
  | warn => "WARN"
  | info => "INFO"
  | debug => "DEBUG"

/-- Records of a higher rank are shown less often. -/
def rank : Level → Nat
  | error => 1
  | warn => 2
  | info => 3
  | debug => 4

end Level

structure Record where
  level : Level
  text : String
  deriving DecidableEq, Repr

/-- The records of an error: its message, and each diagnostic. -/
def AnalysisError.records (e : AnalysisError) : List Record :=
  ⟨.error, e.message⟩ :: e.diagnostics.map fun d => ⟨.error, d.text⟩

end Attest
