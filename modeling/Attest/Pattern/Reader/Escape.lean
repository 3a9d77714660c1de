import Attest.Number.Numeral
import Attest.Pattern.Reader.Basic
/-!
# Escapes

What a backslash and the characters after it stand for.
-/

namespace Attest.Pattern

namespace Reader

/-- One part of a pattern that is no group, bracket or repetition. -/
inductive Part
  | letter (letter : Letter)
  | dot (span : Span)
  | condition (span : Span) (condition : Condition)
  | property (property : PropertyClass)
  | shorthand (shorthand : ShorthandClass)

namespace Part

def span : Part → Span
  | .letter l => l.span
  | .dot span | .condition span _ => span
  | .property p => p.span
  | .shorthand s => s.span

def tree : Part → Tree
  | .letter l => .letter l
  | .dot span => .dot span
  | .condition span place => .condition span place
  | .property p => .property p
  | .shorthand s => .shorthand s

def member (part : Part) : Read ClassTree :=
  match part with
  | .letter l => return .letter l
  | .property p => return .property p
  | .shorthand s => return .shorthand s
  | .dot span | .condition span _ => fail .classEscapeInvalid span.start span.stop

def bound (part : Part) : Read Letter :=
  match part with
  | .letter l => return l
  | _ => fail .classRangeLiteral part.span.start part.span.stop

end Part

/-- The character of a hexadecimal code point. -/
def hexChar? (digits : List Char) : Option Char :=
  let n := Number.hexValue digits
  if h : n.isValidChar then some (Char.ofNatAux n h) else none

/-- Hexadecimal digits up to `}`, newest first. -/
def bracedHex (opened : Position) : Nat → List Char → Read (List Char)
  | 0, _ => do fail .escapeUnexpectedEnd opened (← here)
  | fuel + 1, digits => do
    if !(← advanceBlanks) then fail .escapeUnexpectedEnd opened (← here)
    match (← ahead).head? with
    | some '\x7d' => return digits
    | some c =>
      if Number.isHexDigit c then bracedHex opened fuel (c :: digits)
      else failNext .escapeHexInvalidDigit
    | none => fail .escapeUnexpectedEnd opened (← here)

/-- Exactly `count` hexadecimal digits, newest first. -/
def fixedHex : Nat → List Char → Read (List Char)
  | 0, digits => return digits
  | count + 1, digits => do
    match (← ahead).head? with
    | some c =>
      if !Number.isHexDigit c then failNext .escapeHexInvalidDigit
      let more ← advanceBlanks
      if !more && count ≠ 0 then failHere .escapeUnexpectedEnd
      fixedHex count (c :: digits)
    | none => failHere .escapeUnexpectedEnd

/-- A character by its code point, after `\` at `start`; the kind letter is ahead. -/
def hexEscape (start : Position) (kind : Char) : Read Letter := do
  if !(← advanceBlanks) then failHere .escapeUnexpectedEnd
  if ← isNext '\x7b' then
    let opened ← here
    let first ← afterNext
    let digits ← bracedHex opened (← ahead).length []
    let last ← here
    let _ ← advanceBlanks
    if digits.isEmpty then fail .escapeHexEmpty opened (← here)
    match hexChar? digits.reverse with
    | some c => return ⟨⟨start, ← here⟩, c, false⟩
    | none => fail .escapeHexInvalid first last
  else
    let first ← here
    let digits ← fixedHex (if kind = 'x' then 2 else if kind = 'u' then 4 else 8) []
    match hexChar? digits.reverse with
    | some c => return ⟨⟨start, ← here⟩, c, kind = 'x'⟩
    | none => fail .escapeHexInvalid first (← here)

/-- The characters up to `}`, newest first. -/
def bracedName : Nat → List Char → Read (List Char)
  | 0, _ => failHere .escapeUnexpectedEnd
  | fuel + 1, name => do
    if !(← advanceBlanks) then failHere .escapeUnexpectedEnd
    match (← ahead).head? with
    | some '\x7d' => return name
    | some c => bracedName fuel (c :: name)
    | none => failHere .escapeUnexpectedEnd

/-- The text before and after the first occurrence of a separator. -/
def splitAt? (separator : List Char) : List Char → Option (List Char × List Char)
  | [] => none
  | c :: rest =>
    if separator.isPrefixOf (c :: rest) then some ([], (c :: rest).drop separator.length)
    else (splitAt? separator rest).map fun (before, after) => (c :: before, after)

/-- A property is named by itself or with a value after `!=`, `:` or `=`. -/
def propertyQuery (name : List Char) : PropertyQuery :=
  let split := (splitAt? ['!', '='] name).or ((splitAt? [':'] name).or (splitAt? ['='] name))
  match split with
  | some (property, value) => .value (String.ofList property) (String.ofList value)
  | none => .name (String.ofList name)

/-- A property class, after `\` at `start`; `p` or `P` is ahead. -/
def propertyEscape (start : Position) (negated : Bool) : Read PropertyClass := do
  if !(← advanceBlanks) then failHere .escapeUnexpectedEnd
  match (← ahead).head? with
  | some '\x7b' =>
    let name ← bracedName (← ahead).length []
    skip 1
    return ⟨⟨start, ← here⟩, propertyQuery name.reverse, negated⟩
  | some '\\' => failNext .unicodeClassInvalid
  | some c =>
    let _ ← advanceBlanks
    return ⟨⟨start, ← here⟩, .name c.toString, negated⟩
  | none => failHere .escapeUnexpectedEnd

def isBoundaryChar (c : Char) : Bool :=
  c.isAlpha || c == '-'

/-- Characters of the name of a boundary, newest first. -/
def boundaryName : Nat → List Char → Read (List Char)
  | 0, name => return name
  | fuel + 1, name => do
    match (← ahead).head? with
    | some c =>
      if isBoundaryChar c then
        let _ ← advanceBlanks
        boundaryName fuel (c :: name)
      else return name
    | none => return name

/-- A named boundary after `\b` at `start`. Braces that hold no name are left for a repetition. -/
def namedBoundary (start : Position) : Read (Option Boundary) := do
  let saved ← get
  let opened ← here
  if !(← advanceBlanks) then fail .wordBoundaryUnexpectedEnd start (← here)
  let first ← here
  if !((← ahead).head?.any isBoundaryChar) then
    set saved
    return none
  let name ← boundaryName (← ahead).length []
  if !(← isNext '\x7d') then fail .wordBoundaryUnclosed opened (← here)
  let last ← here
  skip 1
  match String.ofList name.reverse with
  | "start" => return some .wordStart
  | "end" => return some .wordEnd
  | "start-half" => return some .wordStartHalf
  | "end-half" => return some .wordEndHalf
  | _ => fail .wordBoundaryUnrecognized first last

/-- Characters with a meaning of their own. -/
def isMeta (c : Char) : Bool :=
  ['\\', '.', '+', '*', '?', '(', ')', '|', '[', ']', '\x7b', '\x7d', '^', '$', '#', '&', '-',
    '~'].contains c

/-- Characters that an escape leaves as they are. -/
def isEscapable (c : Char) : Bool :=
  isMeta c || (c.toNat < 128 && !c.isAlphanum && c ≠ '<' && c ≠ '>')

/-- The control character of an escape. -/
def control? : Char → Option Char
  | 'a' => some '\x07'
  | 'f' => some '\x0c'
  | 't' => some '\t'
  | 'n' => some '\n'
  | 'r' => some '\r'
  | 'v' => some '\x0b'
  | _ => none

/-- The condition of an escape. -/
def condition? : Char → Option Condition
  | 'A' => some .textStart
  | 'z' => some .textEnd
  | 'b' => some (.boundary .word)
  | 'B' => some (.boundary .notWord)
  | '<' => some (.boundary .wordStart)
  | '>' => some (.boundary .wordEnd)
  | _ => none

def shorthand? : Char → Option (Shorthand × Bool)
  | 'd' => some (.digit, false)
  | 'D' => some (.digit, true)
  | 's' => some (.space, false)
  | 'S' => some (.space, true)
  | 'w' => some (.word, false)
  | 'W' => some (.word, true)
  | _ => none

/-- The part that begins with the `\` ahead. -/
def escape : Read Part := do
  let start ← here
  if !(← advance) then fail .escapeUnexpectedEnd start (← here)
  match (← ahead).head? with
  | none => fail .escapeUnexpectedEnd start (← here)
  | some c =>
    if c.isDigit then fail .backreference start (← afterNext)
    else if c = 'x' || c = 'u' || c = 'U' then return .letter (← hexEscape start c)
    else if c = 'p' || c = 'P' then return .property (← propertyEscape start (c = 'P'))
    else
      skip 1
      let span : Span := ⟨start, ← here⟩
      match shorthand? c, control? c, condition? c with
      | some (kind, negated), _, _ => return .shorthand ⟨span, kind, negated⟩
      | _, some control, _ => return .letter ⟨span, control, false⟩
      | _, _, some condition =>
        if c = 'b' && (← isNext '\x7b') then
          match ← namedBoundary start with
          | some kind => return .condition ⟨start, ← here⟩ (.boundary kind)
          | none => return .condition span condition
        else return .condition span condition
      | none, none, none =>
        if isEscapable c then return .letter ⟨span, c, false⟩
        else fail .escapeUnrecognized span.start span.stop

end Reader

end Attest.Pattern
