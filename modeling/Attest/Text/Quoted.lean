import Attest.Unicode.Printable
/-!
# Quoted text

Text between double quotes, where every character that has no glyph of its own is written as an
escape.
-/

namespace Attest.Text

def hexDigits (n : Nat) : List Char :=
  Nat.toDigits 16 n

/-- A character by its code point, `\u{301}`. -/
def unicodeEscape (c : Char) : List Char :=
  ['\\', 'u', '\x7b'] ++ hexDigits c.toNat ++ ['\x7d']

/-- How a character is written between double quotes. -/
def escapeChar : Char → List Char
  | '\x00' => ['\\', '0']
  | '\t' => ['\\', 't']
  | '\r' => ['\\', 'r']
  | '\n' => ['\\', 'n']
  | '"' => ['\\', '"']
  | '\\' => ['\\', '\\']
  | c => if Unicode.isPrintable c then [c] else unicodeEscape c

def quoteChars (cs : List Char) : List Char :=
  '"' :: (cs.flatMap escapeChar ++ ['"'])

def quote (text : String) : String :=
  String.ofList (quoteChars text.toList)

end Attest.Text
