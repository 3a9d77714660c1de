import Attest.Language.Position
import Attest.Language.Token
import Attest.Number.Numeral
import Attest.Unicode.Alphabetic
import Attest.Unicode.Blank
/-!
# Lexer

Each scan splits the characters ahead into the text of one token and what follows it. Blanks and
line comments stand between tokens; text that is no token becomes an invalid token.
-/

namespace Attest

namespace Lexer

/-! ### Between tokens -/

/-- `//` and `#` begin a comment. -/
def startsComment : List Char → Bool
  | '#' :: _ => true
  | '/' :: '/' :: _ => true
  | _ => false

/-- The blanks and comments that begin the characters; inside a comment they run to its line end. -/
def trivia (inComment : Bool) : List Char → List Char
  | [] => []
  | c :: rest =>
    if inComment then
      if c = '\n' then c :: trivia false rest else c :: trivia true rest
    else if Unicode.isBlank c then c :: trivia false rest
    else if startsComment (c :: rest) then c :: trivia true rest
    else []

/-! ### Names -/

def isNameChar (c : Char) : Bool :=
  Unicode.isAlphanumeric c || c == '_'

def isNameStart (c : Char) : Bool :=
  Unicode.isAlphabetic c || c == '_'

/-- `-` and `:` join the parts of a name. -/
def isJoiner (c : Char) : Bool :=
  c == '-' || c == ':'

/-- The name that begins the characters, where `started` holds after its first character. -/
def nameFrom (started : Bool) : List Char → List Char
  | [] => []
  | c :: rest =>
    if isNameChar c then c :: nameFrom true rest
    else if isJoiner c && started && (rest.head?.any isNameChar) then c :: nameFrom true rest
    else []

def name (cs : List Char) : List Char :=
  nameFrom false cs

/-! ### Strings -/

/-- The character that an escape stands for. -/
def unescape? : Char → Option Char
  | 'n' => some '\n'
  | 't' => some '\t'
  | 'r' => some '\r'
  | '"' => some '"'
  | '\'' => some '\''
  | '\\' => some '\\'
  | _ => none

/-- How the body of a string ends. -/
inductive BodyEnd
  | quote
  | backslash
  | input
  deriving DecidableEq, Repr

/-- The body of a string: what it denotes, its first bad escape, its end and its text. -/
structure Body where
  value : List Char
  badEscape : Option Char
  ending : BodyEnd
  text : List Char

/-- The body after an opening quote, up to and including the closing one. -/
def body (quote : Char) : List Char → Body
  | [] => ⟨[], none, .input, []⟩
  | [c] =>
    if c = quote then ⟨[], none, .quote, [c]⟩
    else if c = '\\' then ⟨[], none, .backslash, [c]⟩
    else ⟨[c], none, .input, [c]⟩
  | c :: e :: rest =>
    if c = quote then ⟨[], none, .quote, [c]⟩
    else if c = '\\' then
      let tail := body quote rest
      match unescape? e with
      | some d => { tail with value := d :: tail.value, text := c :: e :: tail.text }
      | none => { tail with badEscape := some e, text := c :: e :: tail.text }
    else
      let tail := body quote (e :: rest)
      { tail with value := c :: tail.value, text := c :: tail.text }

def Body.token (b : Body) : Token :=
  match b.ending, b.badEscape with
  | .backslash, _ => .invalid .endsInEscape
  | .input, _ => .invalid .missingQuote
  | .quote, some c => .invalid (.badEscape c)
  | .quote, none => .string (String.ofList b.value)

/-! ### Numbers -/

/-- A numeral: sign, digits, and digits after a point. -/
structure Numeral where
  negative : Bool
  whole : List Char
  fraction : List Char

namespace Numeral

def text (n : Numeral) : List Char :=
  (if n.negative then ['-'] else []) ++ n.whole ++
    (if n.fraction.isEmpty then [] else '.' :: n.fraction)

def token (n : Numeral) : Token :=
  if n.fraction.isEmpty then
    let size := Number.digitsValue n.whole
    let value : Int := if n.negative then -(size : Int) else size
    if Number.minInteger ≤ value && value ≤ Number.maxInteger then .integer value
    else .invalid (.integerRange (String.ofList n.text))
  else
    let digits := Number.digitsValue (n.whole ++ n.fraction)
    .float (.ofDecimal n.negative digits n.fraction.length)

end Numeral

/-- Digits after the point that begins the characters, if there are any. -/
def fraction : List Char → List Char
  | '.' :: rest => rest.takeWhile Char.isDigit
  | _ => []

/-- The numeral that begins the characters after its sign. -/
def numeral (negative : Bool) (cs : List Char) : Numeral :=
  ⟨negative, cs.takeWhile Char.isDigit, fraction (cs.dropWhile Char.isDigit)⟩

/-! ### Tokens -/

/-- The token of a single character. -/
def punctuation? : Char → Option Token
  | '.' => some .dot
  | ',' => some .comma
  | ';' => some .semicolon
  | '=' => some .equals
  | '(' => some .leftParen
  | ')' => some .rightParen
  | '[' => some .leftBracket
  | ']' => some .rightBracket
  | '*' => some .star
  | _ => none

/-- The token that begins with `c`, and its text. -/
def tokenAt (c : Char) (rest : List Char) : Token × List Char :=
  if c = '$' then
    if rest.head?.any isNameStart then (.variable (String.ofList (name rest)), c :: name rest)
    else (.dollar, [c])
  else match punctuation? c with
  | some token => (token, [c])
  | none =>
    if c = '"' || c = '\'' then ((body c rest).token, c :: (body c rest).text)
    else if c = '-' && rest.head?.any Char.isDigit then
      ((numeral true rest).token, (numeral true rest).text)
    else if c.isDigit then ((numeral false (c :: rest)).token, (numeral false (c :: rest)).text)
    else if isNameStart c then
      let word := name (c :: rest)
      ((keyword? (String.ofList word)).getD (.identifier (String.ofList word)), word)
    else (.invalid (.unexpectedChar c), [c])

end Lexer

/-- A token and the span of its text. -/
structure Lexeme where
  token : Token
  start : Position
  stop : Position
  deriving DecidableEq, Repr

/-- A place in a source: the position and the characters ahead. -/
structure Scanner where
  position : Position
  ahead : List Char

namespace Scanner

def ofSource (source : String) : Scanner :=
  ⟨.start, source.toList⟩

/-- The scanner after the first characters ahead, which `text` must be. -/
def skip (s : Scanner) (text : List Char) : Scanner :=
  ⟨s.position.after text, s.ahead.drop text.length⟩

/-- Skips the blanks and comments ahead. -/
def skipTrivia (s : Scanner) : Scanner :=
  s.skip (Lexer.trivia false s.ahead)

/-- The next token and the scanner after it. At the end of the input it is the end, ever again. -/
def next (s : Scanner) : Lexeme × Scanner :=
  let s := s.skipTrivia
  match s.ahead with
  | [] => (⟨.endOfInput, s.position, s.position⟩, s)
  | c :: rest =>
    let (token, text) := Lexer.tokenAt c rest
    let after := s.skip text
    (⟨token, s.position, after.position⟩, after)

/-- The tokens ahead, at most `limit` of them before the end of input, which comes last. -/
def tokens : Nat → Scanner → List Lexeme
  | 0, s => [(next s).1]
  | limit + 1, s =>
    let (lexeme, after) := s.next
    if lexeme.token = .endOfInput then [lexeme] else lexeme :: tokens limit after

end Scanner

/-- The tokens of a source, up to and including the end of input. -/
def lex (source : String) : List Lexeme :=
  (Scanner.ofSource source).tokens source.length

end Attest
