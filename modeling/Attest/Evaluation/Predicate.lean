import Attest.Document.Comparison
import Attest.Language.Assertion
import Attest.Pattern.Compile
import Attest.Unicode.Lowercase
/-!
# Predicates on values

What each form says of a left value and, where it takes one, a right value.
-/

namespace Attest

inductive AssertionError
  | undefinedVariable (name : String)
  | emptyOperand (form : Form) (operand : Operand)
  /-- Kinds of nodes that have no order. -/
  | incompatible (form : Form) (left right : String)
  | notScalar (form : Form) (found : String)
  | notCollection (form : Form) (found : String)
  | invalidPattern (pattern : String) (error : Pattern.CompileError)
  /-- The text of an assertion or predicate that no source has. -/
  | malformed (text : String)
  deriving DecidableEq, Repr

namespace AssertionError

def message : AssertionError → String
  | undefinedVariable name => "variable '" ++ name ++ "' is not defined"
  | emptyOperand form operand =>
    "operand '" ++ operand.text ++ "' of '" ++ form.name ++ "' matched nothing"
  | incompatible form left right =>
    "'" ++ form.name ++ "' cannot compare " ++ left ++ " with " ++ right
  | notScalar form found => "'" ++ form.name ++ "' expects a non-null scalar, found " ++ found
  | notCollection form found =>
    "'" ++ form.name ++ "' expects a sequence or mapping, found " ++ found
  | invalidPattern pattern error =>
    "invalid regular expression '" ++ pattern ++ "': " ++ error.message
  | malformed text => "malformed assertion '" ++ text ++ "'"

end AssertionError

namespace Form

/-- The text of a value that must be a scalar. -/
def scalarText (form : Form) (node : Node) : Except AssertionError String :=
  match node.text? with
  | some text => .ok text
  | none => .error (.notScalar form node.kind)

/-- The order of two values that must have one. -/
def order (form : Form) (left right : Node) : Except AssertionError Ordering :=
  match left.order? right with
  | some ordering => .ok ordering
  | none => .error (.incompatible form left.kind right.kind)

/-- A sequence holds an item, or a mapping has it as a key. -/
def holds (form : Form) (collection item : Node) : Except AssertionError Bool :=
  match collection with
  | .sequence items => .ok (items.any fun element => element.looseEquals item)
  | .mapping entries => do
    let key ← form.scalarText item
    return entries.any fun entry => entry.1 == key
  | other => .error (.notCollection form other.kind)

/-- A relation of the texts of two values. -/
def compareTexts (form : Form) (relation : String → String → Bool) (left right : Node) :
    Except AssertionError Bool := do
  let a ← form.scalarText left
  let b ← form.scalarText right
  return relation a b

/-- The order of two values is one that the relation allows. -/
def compareOrder (form : Form) (relation : Ordering → Bool) (left right : Node) :
    Except AssertionError Bool :=
  (form.order left right).map relation

end Form

namespace Predicate

def argument (p : Predicate) (position : Nat) : Except AssertionError Literal :=
  match p.arguments[position]? with
  | some literal => .ok literal
  | none => .error (.malformed p.text)

/-- The text of the left value matches the pattern in some part. -/
def applyPattern (p : Predicate) (left : Node) : Except AssertionError Bool := do
  match ← p.argument 0 with
  | .string pattern =>
    let expr ← (Pattern.compile pattern).mapError (.invalidPattern pattern)
    let text ← p.form.scalarText left
    return expr.matchesIn text
  | _ => throw (.malformed p.text)

/-- The left value lies between the arguments, or is one of them. -/
def applyBounds (p : Predicate) (left : Node) : Except AssertionError Bool := do
  let lower := Node.ofLiteral (← p.argument 0)
  let upper := Node.ofLiteral (← p.argument 1)
  if (← p.form.order left lower) = .lt then return false
  return (← p.form.order left upper) != .gt

/-- The predicate holds of two values. -/
def applyPair (p : Predicate) (left right : Node) : Except AssertionError Bool :=
  match p.form with
  | .equals => .ok (left.looseEquals right)
  | .notEquals => .ok (!left.looseEquals right)
  | .equalsIgnoreCase =>
    p.form.compareTexts (fun a b => Unicode.lowercase a == Unicode.lowercase b) left right
  | .contains => p.form.holds left right
  | .startsWith => p.form.compareTexts (fun a b => b.toList.isPrefixOf a.toList) left right
  | .endsWith => p.form.compareTexts (fun a b => b.toList.isSuffixOf a.toList) left right
  | .greaterThan => p.form.compareOrder (· == .gt) left right
  | .greaterOrEqual => p.form.compareOrder (· != .lt) left right
  | .lessThan => p.form.compareOrder (· == .lt) left right
  | .lessOrEqual => p.form.compareOrder (· != .gt) left right
  | .exists | .size | .matches | .between => .error (.malformed p.text)

/-- The predicate holds of a value, and of a right value if it takes one. -/
def apply (p : Predicate) (left : Node) (right : Option Node) : Except AssertionError Bool :=
  match p.form, right with
  | .matches, _ => p.applyPattern left
  | .between, _ => p.applyBounds left
  | _, some right => p.applyPair left right
  | _, none => .error (.malformed p.text)

end Predicate

end Attest
