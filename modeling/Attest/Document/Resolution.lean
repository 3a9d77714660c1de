import Attest.Document.Node
import Attest.Language.Path
/-!
# Resolution of paths

A path leads from some nodes to others. A step that does not fit a node leads nowhere, and an index
right after a field counts the values of the field.
-/

namespace Attest

namespace Node

def step : Node → Step → List Node
  | mapping entries, .field key => (mapping entries).getAll key
  | sequence items, .index position => items[position]?.toList
  | node, .wildcard => node.children
  | _, _ => []

/-- The member at a position of the values of a key. -/
def fieldIndex (node : Node) (key : String) (position : Nat) : Option Node :=
  (members (node.getAll key))[position]?

end Node

/-- Where a path leads from each of some nodes, in order. -/
def resolveNodes : List Node → Path → List Node
  | nodes, [] => nodes
  | nodes, .field key :: .index position :: rest =>
    resolveNodes (nodes.filterMap fun node => node.fieldIndex key position) rest
  | nodes, step :: rest => resolveNodes (nodes.flatMap fun node => node.step step) rest

/-- Where a path leads from several nodes that stand for one value: an index that comes first
counts the members. -/
def resolveBound (nodes : List Node) : Path → List Node
  | .index position :: rest => resolveNodes (members nodes)[position]?.toList rest
  | path => resolveNodes nodes path

namespace Node

/-- Where a path leads from a node. The empty path leads to the node itself. -/
def resolve (node : Node) (path : Path) : List Node :=
  resolveNodes [node] path

end Node

end Attest
