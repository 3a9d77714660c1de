import Attest.Number.Numeral
import Attest.Unicode.CodePoints
/-!
# Tables of sets as text

A table names each set before a colon and then lists its ranges in hexadecimal.
-/

namespace Attest.Unicode

/-- One range, `41` or `41-5A`. -/
def readRange (word : List Char) : Nat × Nat :=
  let first := Number.hexValue (word.takeWhile (· ≠ '-'))
  match word.dropWhile (· ≠ '-') with
  | _ :: last => (first, Number.hexValue last)
  | [] => (first, first)

/-- Words of a table, split at blanks and line ends. -/
def tableWords (word : List Char) : List Char → List (List Char)
  | [] => if word.isEmpty then [] else [word.reverse]
  | c :: rest =>
    if c = ' ' || c = '\n' then
      (if word.isEmpty then [] else [word.reverse]) ++ tableWords [] rest
    else tableWords (c :: word) rest

/-- Adds a word to the table read so far, newest entry and newest range first. -/
def addWord (table : List (String × CodePoints)) (word : List Char) : List (String × CodePoints) :=
  match word.getLast?, table with
  | some ':', _ => (String.ofList word.dropLast, []) :: table
  | _, (name, ranges) :: rest => (name, readRange word :: ranges) :: rest
  | _, [] => []

/-- The named sets of a table, in its order. -/
def readTable (text : String) : List (String × CodePoints) :=
  ((tableWords [] text.toList).foldl addWord []).reverse.map fun (name, ranges) =>
    (name, ranges.reverse)

end Attest.Unicode
