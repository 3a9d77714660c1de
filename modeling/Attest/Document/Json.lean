import Attest.Document.Node
import Attest.Json.Reader
import Attest.Number.Numeral
/-!
# Documents and JSON

A node is written as JSON, where the values of a repeated key become a list under the first of
them, and JSON is read as a node.
-/

namespace Attest

/-- The values of each key, under keys in the order of their first occurrence. -/
def groupKeys {α : Type} (entries : List (String × α)) : List (String × List α) :=
  entries.foldl add []
where
  add (groups : List (String × List α)) (entry : String × α) : List (String × List α) :=
    if groups.any (·.1 == entry.1) then
      groups.map fun group => if group.1 == entry.1 then (group.1, group.2 ++ [entry.2]) else group
    else groups ++ [(entry.1, [entry.2])]

namespace Json

/-- One value as itself, others as a list. -/
def ofGroup : List Json → Json
  | [value] => value
  | values => array values

mutual

/-- The JSON for a node. Numbers that are not finite become null. -/
def ofNode : Node → Json
  | .null => null
  | .boolean value => boolean value
  | .integer value => integer value
  | .float value => if value.isFinite then float value else null
  | .string value => string value
  | .sequence items => array (ofItems items)
  | .mapping entries =>
    object ((groupKeys (ofEntries entries)).map fun group => (group.1, ofGroup group.2))

def ofItems : List Node → List Json
  | [] => []
  | item :: rest => ofNode item :: ofItems rest

def ofEntries : List (String × Node) → List (String × Json)
  | [] => []
  | (key, value) :: rest => (key, ofNode value) :: ofEntries rest

end

end Json

namespace Node

mutual

/-- The node for a JSON value. Integers beyond 64 bits with a sign become floats. -/
def ofJson : Json → Node
  | .null => null
  | .boolean value => boolean value
  | .integer value => if value ≤ Number.maxInteger then integer value else float (.ofInt value)
  | .float value => float value
  | .string value => string value
  | .array items => sequence (ofArray items)
  | .object members => mapping (ofObject members)

def ofArray : List Json → List Node
  | [] => []
  | item :: rest => ofJson item :: ofArray rest

def ofObject : List (String × Json) → List (String × Node)
  | [] => []
  | (key, value) :: rest => (key, ofJson value) :: ofObject rest

end

/-- The node as compact JSON. -/
def text (node : Node) : String :=
  (Json.ofNode node).text

def readJson (text : String) : Except JsonError Node :=
  (Json.read text).map ofJson

end Node

end Attest
