import Attest.Pattern.Tree
import Attest.Unicode.Blank
/-!
# Places in a pattern

A reader of a pattern moves from left to right and ends with the first fault.
-/

namespace Attest.Pattern

namespace Reader

/-- A place in the pattern. When `verbose` holds, blanks and comments are skipped. -/
structure State where
  position : Position
  ahead : List Char
  verbose : Bool
  names : List (String × Span)

abbrev Read := StateT State (Except Fault)

def fail {α : Type} (kind : FaultKind) (start stop : Position) : Read α :=
  throw ⟨kind, ⟨start, stop⟩, none⟩

def here : Read Position :=
  return (← get).position

def ahead : Read (List Char) :=
  return (← get).ahead

def atEnd : Read Bool :=
  return (← get).ahead.isEmpty

def isNext (c : Char) : Read Bool :=
  return (← get).ahead.head? == some c

def skip (count : Nat) : Read Unit :=
  modify fun s =>
    { s with position := s.position.after (s.ahead.take count), ahead := s.ahead.drop count }

/-- The position after the next character. -/
def afterNext : Read Position := do
  let s ← get
  return s.position.after (s.ahead.take 1)

def failNext {α : Type} (kind : FaultKind) : Read α := do
  fail kind (← here) (← afterNext)

def failHere {α : Type} (kind : FaultKind) : Read α := do
  fail kind (← here) (← here)

/-- How many of the characters are blanks and comments. -/
def blankCount (inComment : Bool) : List Char → Nat
  | [] => 0
  | c :: rest =>
    if inComment then blankCount (c ≠ '\n') rest + 1
    else if Unicode.isBlank c then blankCount false rest + 1
    else if c = '#' then blankCount true rest + 1
    else 0

def skipBlanks : Read Unit := do
  let s ← get
  if s.verbose then skip (blankCount false s.ahead)

/-- Moves past the next character and tells whether another follows. -/
def advance : Read Bool := do
  skip 1
  return !(← atEnd)

/-- Moves past the next character and the blanks after it. -/
def advanceBlanks : Read Bool := do
  skip 1
  skipBlanks
  return !(← atEnd)

def accept (text : String) : Read Bool := do
  if text.toList.isPrefixOf (← ahead) then
    skip text.length
    return true
  else return false

end Reader

end Attest.Pattern
