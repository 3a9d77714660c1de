import Attest.Language.Position
import Attest.Text.Lines
/-!
# Faults of a pattern

What is wrong with a regular expression and where, shown under the pattern with carets.
-/

namespace Attest.Pattern

structure Span where
  start : Position
  stop : Position
  deriving DecidableEq, Repr

inductive FaultKind
  | classEscapeInvalid
  | classRangeInvalid
  | classRangeLiteral
  | classUnclosed
  | decimalEmpty
  | decimalInvalid
  | escapeHexEmpty
  | escapeHexInvalid
  | escapeHexInvalidDigit
  | escapeUnexpectedEnd
  | escapeUnrecognized
  | flagDanglingNegation
  | flagDuplicate
  | flagRepeatedNegation
  | flagUnexpectedEnd
  | flagUnrecognized
  | groupNameDuplicate
  | groupNameEmpty
  | groupNameInvalid
  | groupNameUnexpectedEnd
  | groupUnclosed
  | groupUnopened
  | nestLimitExceeded (limit : Nat)
  | repetitionCountInvalid
  | repetitionCountDecimalEmpty
  | repetitionCountUnclosed
  | repetitionMissing
  | wordBoundaryUnclosed
  | wordBoundaryUnrecognized
  | wordBoundaryUnexpectedEnd
  | unicodeClassInvalid
  | backreference
  | lookAround
  | unicodeNotAllowed
  | invalidUtf8
  | propertyNotFound
  | propertyValueNotFound
  deriving DecidableEq, Repr

namespace FaultKind

def message : FaultKind → String
  | classEscapeInvalid => "invalid escape sequence found in character class"
  | classRangeInvalid => "invalid character class range, the start must be <= the end"
  | classRangeLiteral => "invalid range boundary, must be a literal"
  | classUnclosed => "unclosed character class"
  | decimalEmpty => "decimal literal empty"
  | decimalInvalid => "decimal literal invalid"
  | escapeHexEmpty => "hexadecimal literal empty"
  | escapeHexInvalid => "hexadecimal literal is not a Unicode scalar value"
  | escapeHexInvalidDigit => "invalid hexadecimal digit"
  | escapeUnexpectedEnd => "incomplete escape sequence, reached end of pattern prematurely"
  | escapeUnrecognized => "unrecognized escape sequence"
  | flagDanglingNegation => "dangling flag negation operator"
  | flagDuplicate => "duplicate flag"
  | flagRepeatedNegation => "flag negation operator repeated"
  | flagUnexpectedEnd => "expected flag but got end of regex"
  | flagUnrecognized => "unrecognized flag"
  | groupNameDuplicate => "duplicate capture group name"
  | groupNameEmpty => "empty capture group name"
  | groupNameInvalid => "invalid capture group character"
  | groupNameUnexpectedEnd => "unclosed capture group name"
  | groupUnclosed => "unclosed group"
  | groupUnopened => "unopened group"
  | nestLimitExceeded limit =>
    "exceed the maximum number of nested parentheses/brackets (" ++ toString limit ++ ")"
  | repetitionCountInvalid => "invalid repetition count range, the start must be <= the end"
  | repetitionCountDecimalEmpty => "repetition quantifier expects a valid decimal"
  | repetitionCountUnclosed => "unclosed counted repetition"
  | repetitionMissing => "repetition operator missing expression"
  | wordBoundaryUnclosed =>
    "special word boundary assertion is either unclosed or contains an invalid character"
  | wordBoundaryUnrecognized =>
    "unrecognized special word boundary assertion, valid choices are: start, end, start-half " ++
    "or end-half"
  | wordBoundaryUnexpectedEnd =>
    "found either the beginning of a special word boundary or a bounded repetition on a \\b " ++
    "with an opening brace, but no closing brace"
  | unicodeClassInvalid => "invalid Unicode character class"
  | backreference => "backreferences are not supported"
  | lookAround => "look-around, including look-ahead and look-behind, is not supported"
  | unicodeNotAllowed => "Unicode not allowed here"
  | invalidUtf8 => "pattern can match invalid UTF-8"
  | propertyNotFound => "Unicode property not found"
  | propertyValueNotFound => "Unicode property value not found"

end FaultKind

/-- A fault, where it is, and where the thing that it conflicts with is. -/
structure Fault where
  kind : FaultKind
  span : Span
  other : Option Span := none
  deriving DecidableEq, Repr

namespace Span

def isOneLine (s : Span) : Bool :=
  s.start.line == s.stop.line

/-- Spans are ordered by where they start, then by where they end. -/
def before (a b : Span) : Bool :=
  a.start.offset < b.start.offset
    || (a.start.offset == b.start.offset && a.stop.offset ≤ b.stop.offset)

/-- Carets under the spans of one line, after `column` characters of it. -/
def carets (column : Nat) : List Span → List Char
  | [] => []
  | s :: rest =>
    let gap := s.start.column - 1 - column
    let width := max 1 (s.stop.column - s.start.column)
    List.replicate gap ' ' ++ List.replicate width '^' ++ carets (column + gap + width) rest

/-- A span over several lines in words. -/
def lineNote (s : Span) : String :=
  "on line " ++ toString s.start.line ++ " (column " ++ toString s.start.column ++
    ") through line " ++ toString s.stop.line ++ " (column " ++ toString (s.stop.column - 1) ++ ")"

end Span

namespace Fault

/-- The spans to show, in order. -/
def spans (fault : Fault) : List Span :=
  (fault.span :: fault.other.toList).mergeSort Span.before

/-- One line of the pattern, numbered when `width` is not zero, with carets under its spans. -/
def showLine (spans : List Span) (width number : Nat) (line : List Char) : List Char :=
  let numeral := Nat.toDigits 10 number
  let margin := if width = 0 then List.replicate 4 ' '
    else List.replicate (width - numeral.length) ' ' ++ numeral ++ [':', ' ']
  let here := spans.filter fun s => s.isOneLine && s.start.line == number
  margin ++ line ++ ['\n'] ++
    (if here.isEmpty then []
     else List.replicate margin.length ' ' ++ Span.carets 0 here ++ ['\n'])

/-- The lines of the pattern from line `number` on. -/
def showLines (spans : List Span) (width number : Nat) : List (List Char) → List Char
  | [] => []
  | line :: rest => showLine spans width number line ++ showLines spans width (number + 1) rest

/-- The pattern with carets under the fault, and the fault in words. -/
def text (fault : Fault) (pattern : String) : String :=
  let cs := pattern.toList
  let lines := Text.lines cs
  let spans := fault.spans
  if cs.contains '\n' then
    let count := lines.length + (if cs.getLast? = some '\n' then 1 else 0)
    let divider := String.ofList (List.replicate 79 '~') ++ "\n"
    let notes := (spans.filter fun s => !s.isOneLine).map Span.lineNote
    "regex parse error:\n" ++ divider ++
      String.ofList (showLines spans (Nat.toDigits 10 count).length 1 lines) ++ divider ++
      (if notes.isEmpty then "" else "\n".intercalate notes ++ "\n") ++
      "error: " ++ fault.kind.message
  else
    "regex parse error:\n" ++ String.ofList (showLines spans 0 1 lines) ++
      "error: " ++ fault.kind.message

end Fault

end Attest.Pattern
