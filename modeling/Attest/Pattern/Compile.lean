import Attest.Pattern.Match
import Attest.Pattern.Size
/-!
# Regular expressions

From the text of a pattern to what it matches.
-/

namespace Attest.Pattern

inductive CompileError
  | fault (fault : Fault) (pattern : String)
  | tooLarge
  deriving DecidableEq, Repr

namespace CompileError

def message : CompileError → String
  | fault f pattern => f.text pattern
  | tooLarge => "Compiled regex exceeds size limit of " ++ toString sizeLimit ++ " bytes."

end CompileError

def compile (pattern : String) : Except CompileError Expr :=
  match Tree.read pattern >>= Expr.ofTree {} with
  | .error fault => .error (.fault fault pattern)
  | .ok (expr, _) => if expr.fits then .ok expr else .error .tooLarge

end Attest.Pattern
