import Attest.Language.Form
import Attest.Language.Path
/-!
# Assertions

A leaf assertion applies a predicate to operands; assertion trees combine leaves. Both are written
so that the text reads back as the same tree.
-/

namespace Attest

inductive Operand
  /-- Resolved from the root of the document. -/
  | path (steps : Path)
  /-- Resolved from the nodes that the variable is bound to. -/
  | variable (name : String) (steps : Path)
  | literal (value : Literal)
  deriving DecidableEq, Repr

namespace Operand

def text : Operand → String
  | .path steps => Path.text steps
  | .variable name steps => "$" ++ name ++ Path.tailText steps
  | .literal value => value.text

end Operand

/-- Applies a predicate to each member of the left operand. -/
inductive Quantifier
  | all
  | any
  deriving DecidableEq, Repr

namespace Quantifier

def text : Quantifier → String
  | .all => "all"
  | .any => "any"

end Quantifier

structure Assertion where
  quantifier : Option Quantifier
  predicate : Predicate
  left : Operand
  right : Option Operand
  deriving DecidableEq, Repr

namespace Assertion

/-- The quantifier before a form, with the blank between. -/
def quantifierText : Option Quantifier → String
  | some quantifier => quantifier.text ++ " "
  | none => ""

def text (a : Assertion) : String :=
  let items := (a.left :: a.right.toList).map Operand.text ++ a.predicate.arguments.map Literal.text
  quantifierText a.quantifier ++ a.predicate.form.name ++ "(" ++ ", ".intercalate items ++ ")"

end Assertion

inductive AssertionTree
  | leaf (assertion : Assertion)
  | and (children : List AssertionTree)
  | or (children : List AssertionTree)
  | not (child : AssertionTree)
  deriving Repr, Inhabited

namespace AssertionTree

mutual

def leafCount : AssertionTree → Nat
  | .leaf _ => 1
  | .and children => leafCounts children
  | .or children => leafCounts children
  | .not child => leafCount child

def leafCounts : List AssertionTree → Nat
  | [] => 0
  | child :: rest => leafCount child + leafCounts rest

end

/-- A leaf or a negation stands after `not` without parentheses. -/
def followsNot : AssertionTree → Bool
  | .leaf _ | .not _ => true
  | .and _ | .or _ => false

mutual

def text : AssertionTree → String
  | .leaf assertion => assertion.text
  | .and children => joinedText " and " children
  | .or children => joinedText " or " children
  | .not child => if child.followsNot then "not " ++ text child else "not (" ++ text child ++ ")"

/-- Children with a separator between them; conjunctions and disjunctions are in parentheses. -/
def joinedText (separator : String) : List AssertionTree → String
  | [] => ""
  | [child] => if child.followsNot then text child else "(" ++ text child ++ ")"
  | child :: next :: rest =>
    (if child.followsNot then text child else "(" ++ text child ++ ")") ++ separator ++
      joinedText separator (next :: rest)

end

end AssertionTree

/-- Binds a name to the nodes that a path leads to. -/
structure Declaration where
  name : String
  path : Path
  deriving DecidableEq, Repr

namespace Declaration

def text (d : Declaration) : String :=
  "let " ++ d.name ++ " = " ++ Path.text d.path

end Declaration

/-- A whole source: declarations, then the tree of its assertions. -/
structure Specification where
  declarations : List Declaration
  assertions : AssertionTree
  deriving Repr, Inhabited

end Attest
