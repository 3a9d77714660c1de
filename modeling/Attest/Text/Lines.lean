/-!
# Lines and bytes of text

A line ends at a line feed, which a carriage return may precede. Text after the last line feed is
a line unless it is empty. How far characters reach is counted in bytes of UTF-8.
-/

namespace Attest.Text

/-- A line without the carriage return before its line feed. -/
def dropReturn (line : List Char) : List Char :=
  match line.reverse with
  | '\r' :: rest => rest.reverse
  | _ => line

/-- Lines of the characters, where `current` is the line read so far, newest first. -/
def linesFrom (current : List Char) : List Char → List (List Char)
  | [] => if current.isEmpty then [] else [current.reverse]
  | '\n' :: rest => dropReturn current.reverse :: linesFrom [] rest
  | c :: rest => linesFrom (c :: current) rest

def lines (cs : List Char) : List (List Char) :=
  linesFrom [] cs

def byteCount : List Char → Nat
  | [] => 0
  | c :: rest => c.utf8Size + byteCount rest

end Attest.Text
