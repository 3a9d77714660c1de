import Attest.Language.Lexer
/-!
# Paths

A path leads from a node of the document to others, one step at a time. It is written the way a
source may write it.
-/

namespace Attest

inductive Step
  | field (name : String)
  | index (position : Nat)
  | wildcard
  deriving DecidableEq, Repr

abbrev Path := List Step

/-- A field name that is written without brackets. -/
def isPlainName (name : String) : Bool :=
  let cs := name.toList
  cs.head?.any Lexer.isNameStart
    && cs.all (fun c => Lexer.isNameChar c || Lexer.isJoiner c)
    && !cs.getLast?.any Lexer.isJoiner
    && (keyword? name).isNone

namespace Step

def text : Step → String
  | .field name => if isPlainName name then name else "[" ++ Text.quote name ++ "]"
  | .index position => "[" ++ toString position ++ "]"
  | .wildcard => "[*]"

/-- A step that follows others; a plain name comes after a dot. -/
def tailText (step : Step) : String :=
  match step with
  | .field name => if isPlainName name then "." ++ name else step.text
  | _ => step.text

end Step

namespace Path

/-- Steps that follow others. -/
def tailText (steps : Path) : String :=
  String.join (steps.map Step.tailText)

/-- The path from the root; the root itself is `$`. -/
def text : Path → String
  | [] => "$"
  | step :: rest => step.text ++ tailText rest

end Path

end Attest
