import Attest.Syntax.Fault
/-!
# Parsers

A parser reads from the tokens ahead. When it fails, the constructs that it was within form the
trail of the failure.
-/

namespace Attest

/-- The next token; behind the last token there is the end of input. -/
def nextToken : List Lexeme → Token
  | [] => .endOfInput
  | lexeme :: _ => lexeme.token

def nextLine : List Lexeme → Nat
  | [] => 1
  | lexeme :: _ => lexeme.start.line

abbrev Parser := StateT (List Lexeme) (Except Failure)

namespace Parser

def peek : Parser Token :=
  return nextToken (← get)

def line : Parser Nat :=
  return nextLine (← get)

def advance : Parser Unit :=
  modify List.tail

def failOn {α : Type} (line : Nat) (fault : SyntaxFault) : Parser α :=
  fun ahead => .error ⟨fault, line, [], ahead⟩

def fail {α : Type} (fault : SyntaxFault) : Parser α := do
  failOn (← line) fault

def unexpected {α : Type} (expected : Expected) : Parser α := do
  fail (.ofToken expected (← peek))

def expect (token : Token) (expected : Expected) : Parser Unit := do
  if (← peek) = token then advance else unexpected expected

/-- A failure of the parser is within the construct. -/
def within {α : Type} (construct : Construct) (p : Parser α) : Parser α := fun ahead =>
  match p ahead with
  | .ok result => .ok result
  | .error failure => .error { failure with trail := failure.trail ++ [construct] }

/-- What follows each of the separators ahead, of which there are at most `limit`. -/
def afterEach {α : Type} (separator : Token) (p : Parser α) : Nat → Parser (List α)
  | 0 => return []
  | limit + 1 => do
    if (← peek) = separator then
      advance
      let first ← p
      let rest ← afterEach separator p limit
      return first :: rest
    else return []

end Parser

end Attest
