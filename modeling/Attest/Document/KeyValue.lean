import Attest.Document.Node
import Attest.Text.Lines
import Attest.Text.Quoted
import Attest.Unicode.Blank
/-!
# Documents of keys and values

Each line binds a key to a text, with `=` between them. Blank lines and lines that begin with `#`
are skipped, and keys may repeat.
-/

namespace Attest

/-- A line that binds nothing, and its number, counted from one. -/
structure KeyValueError where
  line : Nat
  text : String
  deriving DecidableEq, Repr

namespace KeyValueError

def message (e : KeyValueError) : String :=
  "map input line " ++ toString e.line ++ ": expected 'key=value', found " ++ Text.quote e.text

end KeyValueError

namespace KeyValue

/-- A line without blanks around it that is to be skipped. -/
def isSkipped : List Char → Bool
  | [] => true
  | c :: _ => c == '#'

def entry? (line : List Char) : Option (String × Node) :=
  let key := Unicode.trimChars (line.takeWhile (· != '='))
  match line.dropWhile (· != '=') with
  | [] => none
  | _ :: value =>
    if key.isEmpty then none
    else some (String.ofList key, .string (String.ofList (Unicode.trimChars value)))

/-- The entries of lines, the first of which has a number. -/
def entries (number : Nat) : List (List Char) → Except KeyValueError (List (String × Node))
  | [] => .ok []
  | line :: rest =>
    let line := Unicode.trimChars line
    if isSkipped line then entries (number + 1) rest
    else
      match entry? line with
      | some entry => (entries (number + 1) rest).map (entry :: ·)
      | none => .error ⟨number, String.ofList line⟩

end KeyValue

namespace Node

/-- The entries of a text, line by line. -/
def readEntries (text : String) : Except KeyValueError (List (String × Node)) :=
  KeyValue.entries 1 (Text.lines text.toList)

end Node

end Attest
