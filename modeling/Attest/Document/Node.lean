import Attest.Language.Literal
/-!
# Nodes of documents

Every kind of input becomes one tree. Mappings are ordered and may repeat a key.
-/

namespace Attest

inductive Node
  | null
  | boolean (value : Bool)
  | integer (value : Int)
  | float (value : Number.Binary64)
  | string (value : String)
  | sequence (items : List Node)
  | mapping (entries : List (String × Node))
  deriving Repr, Inhabited

namespace Node

def isScalar : Node → Bool
  | sequence _ | mapping _ => false
  | _ => true

def kind : Node → String
  | null => "null"
  | boolean _ => "boolean"
  | integer _ => "integer"
  | float _ => "float"
  | string _ => "string"
  | sequence _ => "sequence"
  | mapping _ => "mapping"

/-- The text of a scalar other than null. -/
def text? : Node → Option String
  | string value => some value
  | integer value => some (toString value)
  | float value => some (Number.FloatStyle.plain.text value)
  | boolean value => some (toString value)
  | null | sequence _ | mapping _ => none

def getAll (node : Node) (key : String) : List Node :=
  match node with
  | mapping entries => (entries.filter fun entry => entry.1 == key).map (·.2)
  | _ => []

def children : Node → List Node
  | sequence items => items
  | mapping entries => entries.map (·.2)
  | _ => []

def ofLiteral : Literal → Node
  | .null => null
  | .boolean value => boolean value
  | .integer value => integer value
  | .float value => float value
  | .string value => string value

/-- Several nodes as one: a single node is itself. -/
def ofNodes : List Node → Node
  | [node] => node
  | nodes => sequence nodes

end Node

/-- The members of a group of nodes: the items of a sequence that is alone, else the nodes. -/
def members : List Node → List Node
  | [.sequence items] => items
  | nodes => nodes

end Attest
