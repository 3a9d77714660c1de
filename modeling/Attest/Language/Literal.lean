import Attest.Language.Token
/-!
# Literals
-/

namespace Attest

inductive Literal
  | null
  | boolean (value : Bool)
  | integer (value : Int)
  | float (value : Number.Binary64)
  | string (value : String)
  deriving DecidableEq, Repr

namespace Literal

/-- Literal numbers keep a point, and have an exponent below `1e-4` and from `1e16` on. -/
def floatStyle : Number.FloatStyle := ⟨some (-3, 16), true, false, .up⟩

def text : Literal → String
  | .null => "null"
  | .boolean value => toString value
  | .integer value => toString value
  | .float value => floatStyle.text value
  | .string value => Text.quote value

end Literal

end Attest
