import Attest.Json.Reader.Basic
import Attest.Number.Numeral
/-!
# Strings in JSON text

Characters between double quotes, some of them escaped.
-/

namespace Attest

namespace JsonReader

/-- The four hexadecimal digits ahead. -/
def hexEscape : JsonReader Nat := do
  let ahead := (← get).ahead
  if Text.byteCount ahead < 4 then failAfter 4 .endInString
  else
    let digits := ahead.take 4
    if digits.all Number.isHexDigit then
      skip 4
      return Number.hexValue digits
    else failAfter 4 .invalidEscape

/-- Moves past the next character, which must be `c`. -/
def expectInEscape (c : Char) : JsonReader Unit := do
  match ← peek with
  | none => fail .endInString
  | some d => if d = c then skip 1 else failNext .hexEscapeEnd

/-- The character of the code units ahead, after `\u`. -/
def unicodeEscape : JsonReader Char := do
  let n ← hexEscape
  if 0xDC00 ≤ n && n ≤ 0xDFFF then fail .loneSurrogate
  else if n < 0xD800 || 0xDBFF < n then return Char.ofNat n
  else
    expectInEscape '\\'
    expectInEscape 'u'
    let m ← hexEscape
    if m < 0xDC00 || 0xDFFF < m then fail .loneSurrogate
    else return Char.ofNat ((n - 0xD800) * 0x400 + (m - 0xDC00) + 0x10000)

def escape : JsonReader Char := do
  match ← peek with
  | none => fail .endInString
  | some '"' => skip 1; return '"'
  | some '\\' => skip 1; return '\\'
  | some '/' => skip 1; return '/'
  | some 'b' => skip 1; return '\x08'
  | some 'f' => skip 1; return '\x0c'
  | some 'n' => skip 1; return '\n'
  | some 'r' => skip 1; return '\r'
  | some 't' => skip 1; return '\t'
  | some 'u' => skip 1; unicodeEscape
  | some _ => failNext .invalidEscape

/-- What is left of a string, of at most `limit` characters. -/
def stringBody : Nat → JsonReader (List Char)
  | 0 => fail .endInString
  | limit + 1 => do
    match ← peek with
    | none => fail .endInString
    | some '"' =>
      skip 1
      return []
    | some '\\' =>
      skip 1
      let c ← escape
      return c :: (← stringBody limit)
    | some c =>
      if c.toNat < 0x20 then failNext .controlCharacter
      else
        skip 1
        return c :: (← stringBody limit)

def string : JsonReader String := do
  skip 1
  return String.ofList (← stringBody ((← get).ahead.length + 1))

end JsonReader

end Attest
