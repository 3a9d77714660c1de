import Attest.Number.FloatText
import Attest.Text.Quoted
/-!
# Tokens

The words of a source, and the text by which a message names one.
-/

namespace Attest

/-- Why some text is no token. -/
inductive LexicalError
  | badEscape (c : Char)
  | endsInEscape
  | missingQuote
  | integerRange (numeral : String)
  | unexpectedChar (c : Char)
  deriving DecidableEq, Repr

namespace LexicalError

def message : LexicalError → String
  | .badEscape c => "invalid escape sequence '\\" ++ c.toString ++ "'"
  | .endsInEscape => "unterminated string: unexpected end of input after backslash"
  | .missingQuote => "unterminated string: missing closing quote"
  | .integerRange numeral => "integer '" ++ numeral ++ "' is out of range"
  | .unexpectedChar c => "unexpected character '" ++ c.toString ++ "'"

end LexicalError

inductive Token
  | integer (value : Int)
  | float (value : Number.Binary64)
  | string (value : String)
  | boolean (value : Bool)
  | null
  | identifier (name : String)
  | variable (name : String)
  | dollar
  | letWord
  | andWord
  | orWord
  | notWord
  | allWord
  | anyWord
  | equals
  | dot
  | comma
  | semicolon
  | leftParen
  | rightParen
  | leftBracket
  | rightBracket
  | star
  | invalid (reason : LexicalError)
  | endOfInput
  deriving DecidableEq, Repr

namespace Token

def text : Token → String
  | .integer value => "integer " ++ toString value
  | .float value => "number " ++ Number.FloatStyle.plain.text value
  | .string value => "string " ++ Text.quote value
  | .boolean value => "'" ++ toString value ++ "'"
  | .null => "'null'"
  | .identifier name => "identifier '" ++ name ++ "'"
  | .variable name => "variable '$" ++ name ++ "'"
  | .dollar => "'$'"
  | .letWord => "'let'"
  | .andWord => "'and'"
  | .orWord => "'or'"
  | .notWord => "'not'"
  | .allWord => "'all'"
  | .anyWord => "'any'"
  | .equals => "'='"
  | .dot => "'.'"
  | .comma => "','"
  | .semicolon => "';'"
  | .leftParen => "'('"
  | .rightParen => "')'"
  | .leftBracket => "'['"
  | .rightBracket => "']'"
  | .star => "'*'"
  | .invalid reason => "invalid input (" ++ reason.message ++ ")"
  | .endOfInput => "end of input"

end Token

/-- The words that are no names. -/
def keyword? : String → Option Token
  | "let" => some .letWord
  | "and" => some .andWord
  | "or" => some .orWord
  | "not" => some .notWord
  | "all" => some .allWord
  | "any" => some .anyWord
  | "true" => some (.boolean true)
  | "false" => some (.boolean false)
  | "null" => some .null
  | _ => none

end Attest
