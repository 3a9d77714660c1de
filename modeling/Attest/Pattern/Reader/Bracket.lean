import Attest.Pattern.Reader.Escape
/-!
# Brackets

Classes between brackets, where open brackets and operations wait on a stack for their ends.
-/

namespace Attest.Pattern

namespace Reader

/-- Members of a class side by side. -/
structure Union where
  span : Span
  items : List ClassTree

namespace Union

def add (u : Union) (item : ClassTree) : Union :=
  let start := if u.items.isEmpty then item.span.start else u.span.start
  ⟨⟨start, item.span.stop⟩, u.items ++ [item]⟩

def tree (u : Union) : ClassTree :=
  match u.items with
  | [] => .empty u.span
  | [item] => item
  | items => .union u.span items

end Union

/-- An open bracket with the members before it, or the left side of an operation. -/
inductive ClassFrame
  | bracket (outer : Union) (span : Span) (negated : Bool)
  | operation (kind : SetOperation) (left : ClassTree)

def failUnclosed {α : Type} (frames : List ClassFrame) : Read α :=
  match frames.findSome? fun
      | .bracket _ span _ => some span
      | .operation _ _ => none with
  | some span => fail .classUnclosed span.start span.stop
  | none => failHere .classUnclosed

/-- Hyphens that begin a class stand for themselves. -/
def leadingHyphens (start : Position) : Nat → Union → Read Union
  | 0, union => return union
  | fuel + 1, union => do
    if ← isNext '-' then
      let letter : Letter := ⟨⟨← here, ← afterNext⟩, '-', false⟩
      if !(← advanceBlanks) then fail .classUnclosed start start
      leadingHyphens start fuel (union.add (.letter letter))
    else return union

/-- Reads `[`, an optional `^` and the members that only the beginning of a class may hold. -/
def openBracket : Read (Span × Bool × Union) := do
  let start ← here
  if !(← advanceBlanks) then fail .classUnclosed start (← here)
  let negated ← isNext '^'
  if negated then
    if !(← advanceBlanks) then fail .classUnclosed start (← here)
  let empty : Union := ⟨⟨← here, ← here⟩, []⟩
  let mut union ← leadingHyphens start (← ahead).length empty
  if union.items.isEmpty && (← isNext ']') then
    let letter : Letter := ⟨⟨← here, ← afterNext⟩, ']', false⟩
    union := union.add (.letter letter)
    if !(← advanceBlanks) then fail .classUnclosed start (← here)
  return (⟨start, ← here⟩, negated, union)

def classNames : List String := [
  "alnum", "alpha", "ascii", "blank", "cntrl", "digit", "graph", "lower", "print", "punct",
  "space", "upper", "word", "xdigit"]

/-- A class such as `[:alpha:]`, if one is ahead. -/
def namedClass? : Read (Option ClassTree) := do
  let start ← here
  match ← ahead with
  | '[' :: ':' :: rest =>
    let negated := rest.head? = some '^'
    let name := (if negated then rest.drop 1 else rest).takeWhile (· ≠ ':')
    let count := 2 + (if negated then 1 else 0) + name.length
    let closed := [':', ']'].isPrefixOf ((← ahead).drop count)
    let name := String.ofList name
    if closed && classNames.contains name then
      skip (count + 2)
      return some (.named ⟨start, ← here⟩ name negated)
    else return none
  | _ => return none

/-- The character after the next one and the blanks after that. A comment sign ends the search at
the first character after it. -/
def afterBlanks (verbose : Bool) (ahead : List Char) : Option Char :=
  let rest := ahead.drop 1
  if verbose then
    let significant := rest.dropWhile Unicode.isBlank
    let found := match significant with
      | '#' :: comment => comment.dropWhile Unicode.isBlank
      | other => other
    if found.isEmpty then rest.head? else found.head?
  else rest.head?

/-- A member of a class before it is known whether it begins a range. -/
def classPart : Read Part := do
  match (← ahead).head? with
  | some '\\' => escape
  | some c =>
    let span : Span := ⟨← here, ← afterNext⟩
    skip 1
    return .letter ⟨span, c, false⟩
  | none => failHere .classUnclosed

def classRange (frames : List ClassFrame) : Read ClassTree := do
  let first ← classPart
  skipBlanks
  if ← atEnd then failUnclosed frames
  let following := afterBlanks (← get).verbose (← ahead)
  if !(← isNext '-') || following = some ']' || following = some '-' then first.member
  else
    if !(← advanceBlanks) then failUnclosed frames
    let last ← classPart
    let span : Span := ⟨first.span.start, last.span.stop⟩
    let low ← first.bound
    let high ← last.bound
    if high.char < low.char then fail .classRangeInvalid span.start span.stop
    return .range span low high

/-- Completes the operation that waits for its right side. -/
def closeOperation (frames : List ClassFrame) (right : ClassTree) : ClassTree × List ClassFrame :=
  match frames with
  | .operation kind left :: rest =>
    (.operation ⟨left.span.start, right.span.stop⟩ kind left right, rest)
  | _ => (right, frames)

def operation? : List Char → Option SetOperation
  | '&' :: '&' :: _ => some .intersection
  | '-' :: '-' :: _ => some .difference
  | '~' :: '~' :: _ => some .symmetricDifference
  | _ => none

/-- The rest of a class with open frames and the members since the last of them. -/
def classLoop : Nat → List ClassFrame → Union → Read Tree
  | 0, frames, _ => failUnclosed frames
  | fuel + 1, frames, union => do
    skipBlanks
    if ← atEnd then failUnclosed frames
    if ← isNext '[' then
      if !frames.isEmpty then
        if let some named ← namedClass? then
          return ← classLoop fuel frames (union.add named)
      let (span, negated, inner) ← openBracket
      classLoop fuel (.bracket union span negated :: frames) inner
    else if ← isNext ']' then
      let (inner, frames) := closeOperation frames union.tree
      skip 1
      match frames with
      | .bracket outer span negated :: rest =>
        let span : Span := ⟨span.start, ← here⟩
        if rest.isEmpty then return .bracketed span negated inner
        else classLoop fuel rest (outer.add (.bracketed span negated inner))
      | _ => failUnclosed frames
    else
      match operation? (← ahead) with
      | some kind =>
        let (left, frames) := closeOperation frames union.tree
        skip 2
        let empty : Union := ⟨⟨← here, ← here⟩, []⟩
        classLoop fuel (.operation kind left :: frames) empty
      | none => classLoop fuel frames (union.add (← classRange frames))

/-- The class that begins with the `[` ahead. -/
def bracketed : Read Tree := do
  let empty : Union := ⟨⟨← here, ← here⟩, []⟩
  classLoop ((← ahead).length + 1) [] empty

end Reader

end Attest.Pattern
