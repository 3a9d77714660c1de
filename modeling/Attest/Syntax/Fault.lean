import Attest.Pattern.Compile
import Attest.Syntax.Construct
/-!
# Faults of a source

Why a statement cannot be read.
-/

namespace Attest

/-- What should have come next. -/
inductive Expected
  | variableName
  | equalsSign
  | declarationEnd
  | path
  | stepName
  | stepKey
  | rightBracket
  | statementEnd
  | rightParen
  | assertion
  | form
  | leftParen
  | comma
  | operand
  | literal
  deriving DecidableEq, Repr

namespace Expected

def text : Expected → String
  | variableName => "a variable name after 'let'"
  | equalsSign => "'=' after variable name"
  | declarationEnd => "';' after declaration"
  | path => "a path"
  | stepName => "a field name or '*' after '.'"
  | stepKey => "an index, a quoted key or '*' inside '[]'"
  | rightBracket => "']'"
  | statementEnd => "'and', 'or', ';' or end of input"
  | rightParen => "')'"
  | assertion => "an assertion"
  | form => "an assertion form"
  | leftParen => "'(' after assertion form"
  | comma => "','"
  | operand => "an operand"
  | literal => "a literal"

end Expected

/-- Assertions nest at most this deep in negations and parentheses. -/
def maxNesting : Nat := 128

inductive SyntaxFault
  | unexpected (expected : Expected) (found : Token)
  | lexical (reason : LexicalError)
  | noAssertion
  | lateDeclaration
  | negativeIndex (index : Int)
  | tooNested
  | unknownForm (name : String)
  | quantifiedCount (form : Form) (quantifier : Quantifier)
  | literalOperand (form : Form) (literal : Literal)
  | tooFewArguments (form : Form)
  | tooManyArguments (form : Form)
  | invalidPattern (error : Pattern.CompileError)
  | patternNotText (found : Literal)
  | sizeNotNatural (found : Literal)
  | boundNotOrdered (found : Literal)
  deriving DecidableEq, Repr

namespace SyntaxFault

/-- The fault of a token that comes where something else was expected. -/
def ofToken (expected : Expected) : Token → SyntaxFault
  | .invalid reason => lexical reason
  | found => unexpected expected found

def message : SyntaxFault → String
  | unexpected expected found => "expected " ++ expected.text ++ ", found " ++ found.text
  | lexical reason => reason.message
  | noAssertion => "expected at least one assertion"
  | lateDeclaration => "declarations must precede assertions"
  | negativeIndex index => "index must be non-negative, found " ++ toString index
  | tooNested => "assertions nested deeper than " ++ toString maxNesting ++ " levels"
  | unknownForm name => "unknown assertion form '" ++ name ++ "'"
  | quantifiedCount form quantifier =>
    "'" ++ form.name ++ "' cannot be quantified with '" ++ quantifier.text ++ "'"
  | literalOperand form literal =>
    "'" ++ form.name ++ "' expects a path or variable, found literal " ++ literal.text
  | tooFewArguments form =>
    "not enough arguments for '" ++ form.name ++ "': " ++ form.signature.text
  | tooManyArguments form =>
    "too many arguments for '" ++ form.name ++ "': " ++ form.signature.text
  | invalidPattern error => "invalid regular expression: " ++ error.message
  | patternNotText found => "'matches' expects a string pattern, found " ++ found.text
  | sizeNotNatural found => "'size' expects a non-negative integer, found " ++ found.text
  | boundNotOrdered found => "'between' bounds must be numbers or strings, found " ++ found.text

/-- What is wrong with an argument of a form. -/
def ofArgument? : Form → Literal → Option SyntaxFault
  | .matches, .string pattern =>
    match Pattern.compile pattern with
    | .ok _ => none
    | .error error => some (.invalidPattern error)
  | .matches, found => some (.patternNotText found)
  | .size, .integer n => if 0 ≤ n then none else some (.sizeNotNatural (.integer n))
  | .size, found => some (.sizeNotNatural found)
  | .between, .integer _ | .between, .float _ | .between, .string _ => none
  | .between, found => some (.boundNotOrdered found)
  | _, _ => none

end SyntaxFault

/-- A fault, its line, the constructs around it from the innermost outwards, and the tokens from
where the reading stopped. -/
structure Failure where
  fault : SyntaxFault
  line : Nat
  trail : List Construct
  rest : List Lexeme
  deriving DecidableEq, Repr

end Attest
