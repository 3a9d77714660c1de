import Attest.Syntax.Construct
/-!
# Syntax trees

Constructs with links to the constructs around them. An error points into the tree, and is named
after the nearest construct that has a name.
-/

namespace Attest

/-- A construct and the number of the construct around it. -/
structure SyntaxNode where
  parent : Option Nat
  construct : Construct
  deriving DecidableEq, Repr

/-- Nodes are numbered from zero in the order in which they were added. -/
structure SyntaxTree where
  nodes : Array SyntaxNode := #[]
  deriving Repr

namespace SyntaxTree

def size (tree : SyntaxTree) : Nat :=
  tree.nodes.size

def get? (tree : SyntaxTree) (id : Nat) : Option SyntaxNode :=
  tree.nodes[id]?

def push (tree : SyntaxTree) (parent : Option Nat) (construct : Construct) : SyntaxTree :=
  ⟨tree.nodes.push ⟨parent, construct⟩⟩

def set (tree : SyntaxTree) (id : Nat) (construct : Construct) : SyntaxTree :=
  ⟨tree.nodes.modify id fun node => { node with construct }⟩

/-- The construct of a node and of those around it, going up at most `limit` times. -/
def chain (tree : SyntaxTree) : Nat → Nat → List Construct
  | 0, _ => []
  | limit + 1, id =>
    match tree.get? id with
    | none => []
    | some node => node.construct :: (node.parent.map (chain tree limit)).getD []

/-- The construct of a node and all those around it, outwards. -/
def ancestors (tree : SyntaxTree) (id : Nat) : List Construct :=
  tree.chain tree.size id

/-- Adds constructs one within the other, the innermost first, and gives the number of the last. -/
def pushTrail (tree : SyntaxTree) (parent : Nat) : List Construct → SyntaxTree × Nat
  | [] => (tree, parent)
  | construct :: around =>
    let (tree, outer) := pushTrail tree parent around
    (tree.push (some outer) construct, tree.size)

end SyntaxTree

/-- What is wrong with a source, on which line, and with which node of its syntax tree. -/
structure SyntaxError where
  message : String
  line : Nat
  node : Nat
  deriving DecidableEq, Repr

structure Diagnostic where
  message : String
  line : Nat
  /-- The text of the nearest construct that has one. -/
  token : String
  deriving DecidableEq, Repr

namespace Diagnostic

/-- Stands for the token of an error with no construct that has a name. -/
def rootToken : String := "ROOT"

def text (d : Diagnostic) : String :=
  "MSG: " ++ d.message ++ " - LINE: " ++ toString d.line ++ " - TOKEN: '" ++ d.token ++ "'"

end Diagnostic

namespace SyntaxTree

/-- The name of the innermost construct around a node that has one. -/
def nearestName? (tree : SyntaxTree) (id : Nat) : Option String :=
  (tree.ancestors id).findSome? Construct.name?

/-- The report of an error. Errors before the first line are reported on it. -/
def diagnose (tree : SyntaxTree) (error : SyntaxError) : Diagnostic :=
  ⟨error.message, max error.line 1, (tree.nearestName? error.node).getD Diagnostic.rootToken⟩

end SyntaxTree

/-- All errors of a source, and the tree that they point into. -/
structure SyntaxErrors where
  errors : List SyntaxError
  tree : SyntaxTree
  deriving Repr

namespace SyntaxErrors

def message (e : SyntaxErrors) : String :=
  toString e.errors.length ++ " syntax error(s) found"

def diagnostics (e : SyntaxErrors) : List Diagnostic :=
  e.errors.map e.tree.diagnose

end SyntaxErrors

end Attest
