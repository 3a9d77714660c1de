import Attest.Number.Numeral
import Attest.Text.Lines
/-!
# References in XML text

`&name;` stands for one of five characters, `&#n;` for the character of a code point. Errors
carry offsets in bytes.
-/

namespace Attest.Xml

/-- Why a numeral is no character reference. -/
inductive ReferenceFault
  | sign
  | empty
  | digit
  | tooLarge
  | notCharacter (point : Nat)
  | zero
  deriving DecidableEq, Repr

namespace ReferenceFault

def message : ReferenceFault → String
  | sign => "unexpected number sign"
  | empty => "cannot parse integer from empty string"
  | digit => "invalid digit found in string"
  | tooLarge => "number too large to fit in target type"
  | notCharacter point => "\x60" ++ toString point ++ "\x60 is not a valid codepoint"
  | zero => "0x0 character is not permitted in XML"

end ReferenceFault

inductive EscapeFault
  | unterminated (start stop : Nat)
  | unknown (start stop : Nat) (name : String)
  | reference (fault : ReferenceFault)
  deriving DecidableEq, Repr

namespace EscapeFault

def message : EscapeFault → String
  | unterminated start stop =>
    "Error while escaping character at range " ++ toString start ++ ".." ++ toString stop ++
      ": Cannot find ';' after '&'"
  | unknown start stop name =>
    "at " ++ toString start ++ ".." ++ toString stop ++ ": unrecognized entity \x60" ++ name ++
      "\x60"
  | reference fault => "invalid character reference: " ++ fault.message

end EscapeFault

/-- References are numbers of 32 bits, which lie below this one. -/
def referenceBound : Nat := 4294967296

/-- Digits after a number of 32 bits. -/
def readDigits (base n : Nat) : List Char → Except ReferenceFault Nat
  | [] => .ok n
  | c :: rest =>
    match Number.digitValue? base c with
    | none => .error .digit
    | some value =>
      let next := n * base + value
      if referenceBound ≤ next then .error .tooLarge else readDigits base next rest

/-- A numeral without sign. -/
def readNumeral (base : Nat) : List Char → Except ReferenceFault Nat
  | [] => .error .empty
  | c :: rest => if c = '+' || c = '-' then .error .sign else readDigits base 0 (c :: rest)

/-- The character that a numeral refers to; `x` comes before hexadecimal digits. -/
def referenced (numeral : List Char) : Except ReferenceFault Char := do
  let point ← match numeral with
    | 'x' :: digits => readNumeral 16 digits
    | digits => readNumeral 10 digits
  if point = 0 then throw .zero
  else if h : point.isValidChar then return Char.ofNatAux point h
  else throw (.notCharacter point)

/-- The character that a name between `&` and `;` stands for. -/
def named? : List Char → Option Char
  | ['l', 't'] => some '<'
  | ['g', 't'] => some '>'
  | ['a', 'm', 'p'] => some '&'
  | ['a', 'p', 'o', 's'] => some '\''
  | ['q', 'u', 'o', 't'] => some '"'
  | _ => none

/-- The character of a reference whose name begins at an offset. -/
def resolve (start : Nat) : List Char → Except EscapeFault Char
  | '#' :: numeral => (referenced numeral).mapError .reference
  | name =>
    match named? name with
    | some c => .ok c
    | none => .error (.unknown start (start + Text.byteCount name) (String.ofList name))

/-- The characters from an offset on, after an `&` at an offset with part of its name, newest
first, if one is open. -/
def unescapeFrom (total : Nat) (opened : Option (Nat × List Char)) (offset : Nat) :
    List Char → Except EscapeFault (List Char)
  | [] =>
    match opened with
    | none => .ok []
    | some (start, _) => .error (.unterminated start total)
  | c :: rest =>
    let next := offset + c.utf8Size
    match opened with
    | none =>
      if c = '&' then unescapeFrom total (some (offset, [])) next rest
      else (unescapeFrom total none next rest).map (c :: ·)
    | some (start, name) =>
      if c = ';' then
        match resolve (start + 1) name.reverse with
        | .ok d => (unescapeFrom total none next rest).map (d :: ·)
        | .error fault => .error fault
      else if c = '&' then .error (.unterminated start total)
      else unescapeFrom total (some (start, c :: name)) next rest

/-- The characters with every reference replaced. -/
def unescape (cs : List Char) : Except EscapeFault (List Char) :=
  unescapeFrom (Text.byteCount cs) none 0 cs

end Attest.Xml
