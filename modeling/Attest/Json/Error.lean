/-!
# Errors in JSON text

What is wrong, on which line and after how many bytes of it.
-/

namespace Attest

inductive JsonFault
  | endInList
  | endInObject
  | endInString
  | endInValue
  | expectedColon
  | expectedListEnd
  | expectedObjectEnd
  | expectedWord
  | expectedValue
  | invalidEscape
  | invalidNumber
  | numberRange
  | controlCharacter
  | keyNotString
  | loneSurrogate
  | trailingComma
  | trailingCharacters
  | hexEscapeEnd
  | tooDeep
  deriving DecidableEq, Repr

namespace JsonFault

def message : JsonFault → String
  | endInList => "EOF while parsing a list"
  | endInObject => "EOF while parsing an object"
  | endInString => "EOF while parsing a string"
  | endInValue => "EOF while parsing a value"
  | expectedColon => "expected \x60:\x60"
  | expectedListEnd => "expected \x60,\x60 or \x60]\x60"
  | expectedObjectEnd => "expected \x60,\x60 or \x60\x7d\x60"
  | expectedWord => "expected ident"
  | expectedValue => "expected value"
  | invalidEscape => "invalid escape"
  | invalidNumber => "invalid number"
  | numberRange => "number out of range"
  | controlCharacter => "control character (\\u0000-\\u001F) found while parsing a string"
  | keyNotString => "key must be a string"
  | loneSurrogate => "lone leading surrogate in hex escape"
  | trailingComma => "trailing comma"
  | trailingCharacters => "trailing characters"
  | hexEscapeEnd => "unexpected end of hex escape"
  | tooDeep => "recursion limit exceeded"

end JsonFault

/-- A line, and how many bytes of it come before. -/
structure JsonPlace where
  line : Nat
  column : Nat
  deriving DecidableEq, Repr

namespace JsonPlace

/-- The place after `count` bytes of some characters, or after all of them. -/
def after (p : JsonPlace) : Nat → List Char → JsonPlace
  | _, [] => p
  | count, c :: rest =>
    if count = 0 then p
    else if c = '\n' then after ⟨p.line + 1, 0⟩ (count - 1) rest
    else after ⟨p.line, p.column + min count c.utf8Size⟩ (count - c.utf8Size) rest

end JsonPlace

structure JsonError where
  fault : JsonFault
  place : JsonPlace
  deriving DecidableEq, Repr

namespace JsonError

def message (e : JsonError) : String :=
  e.fault.message ++ " at line " ++ toString e.place.line ++ " column " ++ toString e.place.column

end JsonError

end Attest
