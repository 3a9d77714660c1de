import Attest.Json.Error
import Attest.Text.Lines
/-!
# Places in JSON text

A reader moves from left to right and ends with the first error.
-/

namespace Attest

/-- A place in the text and the characters ahead. -/
structure JsonCursor where
  place : JsonPlace
  ahead : List Char

abbrev JsonReader := StateT JsonCursor (Except JsonError)

namespace JsonReader

def fail {α : Type} (fault : JsonFault) : JsonReader α :=
  fun s => .error ⟨fault, s.place⟩

/-- A fault after `count` more bytes. -/
def failAfter {α : Type} (count : Nat) (fault : JsonFault) : JsonReader α :=
  fun s => .error ⟨fault, s.place.after count s.ahead⟩

/-- A fault of the next byte. -/
def failNext {α : Type} (fault : JsonFault) : JsonReader α :=
  failAfter 1 fault

def peek : JsonReader (Option Char) :=
  return (← get).ahead.head?

def skip (count : Nat) : JsonReader Unit :=
  modify fun s =>
    let text := s.ahead.take count
    ⟨s.place.after (Text.byteCount text) text, s.ahead.drop count⟩

def isBlank (c : Char) : Bool :=
  c == ' ' || c == '\n' || c == '\t' || c == '\r'

/-- The next character after blanks. -/
def peekToken : JsonReader (Option Char) := do
  skip ((← get).ahead.takeWhile isBlank).length
  peek

end JsonReader

end Attest
