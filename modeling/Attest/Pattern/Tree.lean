import Attest.Pattern.Fault
/-!
# Trees of patterns

A regular expression as it is written. Every part keeps the span that a fault would point at.
-/

namespace Attest.Pattern

/-- A character as written; `byte` when written as `\xNN`. -/
structure Letter where
  span : Span
  char : Char
  byte : Bool
  deriving DecidableEq, Repr

inductive Flag
  | caseInsensitive
  | multiLine
  | dotMatchesNewLine
  | swapGreed
  | unicode
  | crlf
  | ignoreWhitespace
  deriving DecidableEq, Repr

/-- Flags that are switched on or off. -/
abbrev Flags := List (Flag × Bool)

inductive Boundary
  | word
  | notWord
  | wordStart
  | wordEnd
  | wordStartHalf
  | wordEndHalf
  deriving DecidableEq, Repr

/-- A condition on a place in the text. -/
inductive Condition
  | lineStart
  | lineEnd
  | textStart
  | textEnd
  | boundary (kind : Boundary)
  deriving DecidableEq, Repr

inductive Shorthand
  | digit
  | space
  | word
  deriving DecidableEq, Repr

structure ShorthandClass where
  span : Span
  kind : Shorthand
  negated : Bool
  deriving DecidableEq, Repr

/-- A property of characters, or a value of one. -/
inductive PropertyQuery
  | name (name : String)
  | value (property value : String)
  deriving DecidableEq, Repr

structure PropertyClass where
  span : Span
  query : PropertyQuery
  negated : Bool
  deriving DecidableEq, Repr

inductive SetOperation
  | intersection
  | difference
  | symmetricDifference
  deriving DecidableEq, Repr

/-- What stands between brackets. -/
inductive ClassTree
  | empty (span : Span)
  | letter (letter : Letter)
  | range (span : Span) (first last : Letter)
  | named (span : Span) (name : String) (negated : Bool)
  | property (property : PropertyClass)
  | shorthand (shorthand : ShorthandClass)
  | bracketed (span : Span) (negated : Bool) (inner : ClassTree)
  | union (span : Span) (items : List ClassTree)
  | operation (span : Span) (kind : SetOperation) (left right : ClassTree)
  deriving Repr

namespace ClassTree

def span : ClassTree → Span
  | .empty span | .range span _ _ | .named span _ _ | .bracketed span _ _ | .union span _
  | .operation span _ _ _ => span
  | .letter l => l.span
  | .property p => p.span
  | .shorthand s => s.span

end ClassTree

inductive Tree
  | empty (span : Span)
  | flags (span : Span) (flags : Flags)
  | letter (letter : Letter)
  | dot (span : Span)
  | condition (span : Span) (condition : Condition)
  | property (property : PropertyClass)
  | shorthand (shorthand : ShorthandClass)
  | bracketed (span : Span) (negated : Bool) (inner : ClassTree)
  | repetition (span : Span) (least : Nat) (greatest : Option Nat) (inner : Tree)
  | group (span : Span) (captures : Bool) (flags : Flags) (inner : Tree)
  | alternation (span : Span) (branches : List Tree)
  | concat (span : Span) (items : List Tree)
  deriving Repr

namespace Tree

def span : Tree → Span
  | .empty span | .flags span _ | .dot span | .condition span _ | .bracketed span _ _
  | .repetition span _ _ _ | .group span _ _ _ | .alternation span _ | .concat span _ => span
  | .letter l => l.span
  | .property p => p.span
  | .shorthand s => s.span

/-- Several parts in a row; one part stands for itself. -/
def ofItems (span : Span) : List Tree → Tree
  | [] => .empty span
  | [item] => item
  | items => .concat span items

end Tree

/-! ### Nesting -/

namespace ClassTree

mutual

/-- The first part nested deeper than `room` levels. -/
def tooDeep? (room : Nat) : ClassTree → Option Span
  | .bracketed span _ inner =>
    match room with
    | 0 => some span
    | room + 1 => tooDeep? room inner
  | .union span items =>
    match room with
    | 0 => some span
    | room + 1 => anyTooDeep? room items
  | .operation span _ left right =>
    match room with
    | 0 => some span
    | room + 1 => (tooDeep? room left).or (tooDeep? room right)
  | _ => none

def anyTooDeep? (room : Nat) : List ClassTree → Option Span
  | [] => none
  | item :: rest => (tooDeep? room item).or (anyTooDeep? room rest)

end

end ClassTree

namespace Tree

mutual

/-- The first part nested deeper than `room` levels. -/
def tooDeep? (room : Nat) : Tree → Option Span
  | .bracketed span _ inner =>
    match room with
    | 0 => some span
    | room + 1 => inner.tooDeep? room
  | .repetition span _ _ inner =>
    match room with
    | 0 => some span
    | room + 1 => tooDeep? room inner
  | .group span _ _ inner =>
    match room with
    | 0 => some span
    | room + 1 => tooDeep? room inner
  | .alternation span branches =>
    match room with
    | 0 => some span
    | room + 1 => anyTooDeep? room branches
  | .concat span items =>
    match room with
    | 0 => some span
    | room + 1 => anyTooDeep? room items
  | _ => none

def anyTooDeep? (room : Nat) : List Tree → Option Span
  | [] => none
  | item :: rest => (tooDeep? room item).or (anyTooDeep? room rest)

end

end Tree

end Attest.Pattern
