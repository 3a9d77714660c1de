import Attest.Document.Resolution
import Attest.Evaluation.Predicate
import Attest.Evaluation.Store
/-!
# Evaluation

Assertions are evaluated against a document and the variables bound to its nodes. A tree is
evaluated from the left and no further than its truth needs; an error ends the evaluation.
-/

namespace Attest

/-- What operands refer to. -/
structure Scope where
  document : Node
  store : Store

namespace Scope

def resolve (s : Scope) : Operand → Except AssertionError (List Node)
  | .path steps => .ok (s.document.resolve steps)
  | .variable name steps =>
    match s.store.get? name with
    | some binding => .ok (resolveBound binding.nodes steps)
    | none => .error (.undefinedVariable name)
  | .literal value => .ok [.ofLiteral value]

/-- The nodes of an operand as one value, which they must have. -/
def singleValue (form : Form) (operand : Operand) : List Node → Except AssertionError Node
  | [] => .error (.emptyOperand form operand)
  | nodes => .ok (.ofNodes nodes)

/-- The value of the right operand, if the form takes one. -/
def rightValue (s : Scope) (a : Assertion) : Except AssertionError (Option Node) :=
  match a.right, a.predicate.form.signature.operands with
  | some operand, 2 => do
    return some (← singleValue a.predicate.form operand (← s.resolve operand))
  | none, 1 => .ok none
  | _, _ => .error (.malformed a.text)

/-- The test holds of all nodes, tried in order. -/
def all (test : Node → Except AssertionError Bool) : List Node → Except AssertionError Bool
  | [] => .ok true
  | node :: rest => do if ← test node then all test rest else return false

/-- The test holds of some node, tried in order. -/
def any (test : Node → Except AssertionError Bool) : List Node → Except AssertionError Bool
  | [] => .ok false
  | node :: rest => do if ← test node then return true else any test rest

/-- The truth of a form that counts nodes. -/
def count (a : Assertion) (nodes : List Node) : Except AssertionError Bool :=
  if a.quantifier.isSome then .error (.malformed a.text)
  else if a.predicate.form = .exists then .ok (!nodes.isEmpty)
  else do
    match ← a.predicate.argument 0 with
    | .integer n => return ((members nodes).length : Int) == n
    | _ => throw (.malformed a.text)

def leaf (s : Scope) (a : Assertion) : Except AssertionError Bool := do
  let nodes ← s.resolve a.left
  if a.predicate.form.countsNodes then count a nodes
  else
    let right ← s.rightValue a
    let test (node : Node) : Except AssertionError Bool := a.predicate.apply node right
    match a.quantifier with
    | none => test (← singleValue a.predicate.form a.left nodes)
    | some .all => all test (members nodes)
    | some .any => any test (members nodes)

end Scope

/-! ### Trees -/

/-- The truth of a tree, and of the leaves whose evaluation completed, in order. -/
structure Outcome where
  result : Except AssertionError Bool
  completed : List (Assertion × Bool)

namespace Outcome

def ofLeaf (a : Assertion) (result : Except AssertionError Bool) : Outcome :=
  ⟨result, match result with
    | .ok value => [(a, value)]
    | .error _ => []⟩

def not (o : Outcome) : Outcome :=
  { o with result := o.result.map Bool.not }

/-- The next outcome, after the leaves of this one. -/
def before (o next : Outcome) : Outcome :=
  { next with completed := o.completed ++ next.completed }

end Outcome

namespace AssertionTree

mutual

/-- Evaluates a tree, given the truth of leaves. -/
def evaluate (leaf : Assertion → Except AssertionError Bool) : AssertionTree → Outcome
  | .leaf a => .ofLeaf a (leaf a)
  | .and children => evaluateAll leaf children
  | .or children => evaluateAny leaf children
  | .not child => (evaluate leaf child).not

/-- Evaluates children until one does not hold. -/
def evaluateAll (leaf : Assertion → Except AssertionError Bool) : List AssertionTree → Outcome
  | [] => ⟨.ok true, []⟩
  | child :: rest =>
    let first := evaluate leaf child
    match first.result with
    | .ok true => first.before (evaluateAll leaf rest)
    | _ => first

/-- Evaluates children until one holds. -/
def evaluateAny (leaf : Assertion → Except AssertionError Bool) : List AssertionTree → Outcome
  | [] => ⟨.ok false, []⟩
  | child :: rest =>
    let first := evaluate leaf child
    match first.result with
    | .ok false => first.before (evaluateAny leaf rest)
    | _ => first

end

end AssertionTree

namespace Scope

def evaluate (s : Scope) (tree : AssertionTree) : Outcome :=
  tree.evaluate s.leaf

end Scope

end Attest
