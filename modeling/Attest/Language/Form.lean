import Attest.Language.Literal
/-!
# Assertion forms

The operators of assertions, how many operands and literal arguments each takes, and a form
together with its arguments.
-/

namespace Attest

inductive Form
  | exists
  | size
  | equals
  | notEquals
  | equalsIgnoreCase
  | contains
  | startsWith
  | endsWith
  | matches
  | greaterThan
  | greaterOrEqual
  | lessThan
  | lessOrEqual
  | between
  deriving DecidableEq, Repr

/-- How many operands and literal arguments a form takes, in that order. -/
structure Signature where
  operands : Nat
  arguments : Nat
  deriving DecidableEq, Repr

namespace Form

def every : List Form := [
  .exists, .size, .equals, .notEquals, .equalsIgnoreCase, .contains, .startsWith, .endsWith,
  .matches, .greaterThan, .greaterOrEqual, .lessThan, .lessOrEqual, .between]

def name : Form → String
  | .exists => "exists"
  | .size => "size"
  | .equals => "equals"
  | .notEquals => "not-equals"
  | .equalsIgnoreCase => "equals-ignore-case"
  | .contains => "contains"
  | .startsWith => "starts-with"
  | .endsWith => "ends-with"
  | .matches => "matches"
  | .greaterThan => "greater-than"
  | .greaterOrEqual => "greater-or-equal"
  | .lessThan => "less-than"
  | .lessOrEqual => "less-or-equal"
  | .between => "between"

def ofName? (name : String) : Option Form :=
  every.find? fun form => form.name == name

def signature : Form → Signature
  | .exists => ⟨1, 0⟩
  | .size | .matches => ⟨1, 1⟩
  | .between => ⟨1, 2⟩
  | _ => ⟨2, 0⟩

/-- The form counts the nodes of its operand and does not look at their values. -/
def countsNodes : Form → Bool
  | .exists | .size => true
  | _ => false

end Form

def Signature.text (s : Signature) : String :=
  let operands := "expected " ++ toString s.operands ++
    (if s.operands = 1 then " operand" else " operands")
  match s.arguments with
  | 0 => operands
  | 1 => operands ++ " and 1 argument"
  | n => operands ++ " and " ++ toString n ++ " arguments"

structure Predicate where
  form : Form
  arguments : List Literal
  deriving DecidableEq, Repr

namespace Predicate

/-- The predicate with `_` for each operand. -/
def text (p : Predicate) : String :=
  let slots := List.replicate p.form.signature.operands "_"
  p.form.name ++ "(" ++ ", ".intercalate (slots ++ p.arguments.map Literal.text) ++ ")"

end Predicate

end Attest
