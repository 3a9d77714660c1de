import Attest.Document.Node
import Attest.Text.Quoted
import Attest.Unicode.Blank
import Attest.Xml.Event
/-!
# Documents in XML

A document is a mapping of its root element. An element with neither attributes nor child elements
is its text; any other is a mapping of its attributes, its children and its text.
-/

namespace Attest

inductive XmlError
  | markup (fault : Xml.MarkupFault)
  | escape (fault : Xml.EscapeFault)
  | attribute (fault : Xml.AttributeFault)
  | unclosed (name : String)
  | noRoot
  | multipleRoots (name : String)
  | textOutsideRoot (text : String)
  | tooDeep
  deriving DecidableEq, Repr

/-- Elements nest at most this deep. -/
def maxElementDepth : Nat := 256

namespace XmlError

def ofTagFault : Xml.TagFault → XmlError
  | .attribute fault => .attribute fault
  | .escape fault => .escape fault

def message : XmlError → String
  | markup fault => fault.message
  | escape fault => fault.message
  | .attribute fault => fault.message
  | unclosed name => "element <" ++ name ++ "> is never closed"
  | noRoot => "document has no root element"
  | multipleRoots name => "document has more than one root element (found <" ++ name ++ ">)"
  | textOutsideRoot text => "text outside the root element: " ++ Text.quote text
  | tooDeep => "elements nested deeper than " ++ toString maxElementDepth ++ " levels"

end XmlError

/-- An element that is open, with what was read of it. -/
structure Element where
  name : String
  attributes : List (String × Node)
  children : List (String × Node) := []
  text : String := ""

namespace Element

def textKey : String := "#text"

def ofTag (tag : Xml.Tag) : Except XmlError Element :=
  match tag.attributes with
  | .ok attributes =>
    let entries := attributes.map fun (key, value) => ("@" ++ key, .string value)
    .ok { name := tag.name, attributes := entries }
  | .error fault => .error (.ofTagFault fault)

/-- Adds text after the text so far, with a blank between them. -/
def addText (e : Element) (text : String) : Element :=
  { e with text := if e.text.isEmpty then text else e.text ++ " " ++ text }

def addChild (e : Element) (child : String × Node) : Element :=
  { e with children := e.children ++ [child] }

def node (e : Element) : Node :=
  if e.attributes.isEmpty && e.children.isEmpty then .string e.text
  else
    .mapping (e.attributes ++ e.children ++
      (if e.text.isEmpty then [] else [(textKey, .string e.text)]))

def entry (e : Element) : String × Node :=
  (e.name, e.node)

end Element

/-- Elements that are open, the innermost first, and the root when it is closed. -/
structure XmlTree where
  opened : List Element := []
  root : Option (String × Node) := none

namespace XmlTree

/-- Adds an element that is closed to the one around it. -/
def attach (t : XmlTree) (entry : String × Node) : Except XmlError XmlTree :=
  match t.opened with
  | parent :: around => .ok { t with opened := parent.addChild entry :: around }
  | [] =>
    if t.root.isSome then .error (.multipleRoots entry.1) else .ok { t with root := some entry }

def addText (t : XmlTree) (text : String) : Except XmlError XmlTree :=
  let text := Unicode.trim text
  if text.isEmpty then .ok t
  else
    match t.opened with
    | element :: around => .ok { t with opened := element.addText text :: around }
    | [] => .error (.textOutsideRoot text)

def openElement (t : XmlTree) (tag : Xml.Tag) : Except XmlError XmlTree :=
  if t.opened.isEmpty && t.root.isSome then .error (.multipleRoots tag.name)
  else if maxElementDepth ≤ t.opened.length then .error .tooDeep
  else (Element.ofTag tag).map fun element => { t with opened := element :: t.opened }

def closeElement (t : XmlTree) : Except XmlError XmlTree :=
  match t.opened with
  | element :: around => attach { t with opened := around } element.entry
  | [] => .ok t

def step (t : XmlTree) : Xml.Event → Except XmlError XmlTree
  | .opening tag => t.openElement tag
  | .empty tag => do t.attach (← Element.ofTag tag).entry
  | .closing => t.closeElement
  | .text (.ok text) => t.addText text
  | .text (.error fault) => .error (.escape fault)
  | .other => .ok t

/-- The document, when all events were read. -/
def document (t : XmlTree) : Except XmlError Node :=
  match t.opened, t.root with
  | element :: _, _ => .error (.unclosed element.name)
  | [], none => .error .noRoot
  | [], some root => .ok (.mapping [root])

end XmlTree

namespace Node

def ofEvents (events : Xml.Events) : Except XmlError Node := do
  let tree ← events.list.foldlM XmlTree.step {}
  match events.fault with
  | some fault => throw (.markup fault)
  | none => tree.document

def readXml (text : String) : Except XmlError Node :=
  ofEvents (.ofString text)

end Node

end Attest
