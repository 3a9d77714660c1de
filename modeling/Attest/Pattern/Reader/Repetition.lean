import Attest.Number.Numeral
import Attest.Pattern.Reader.Basic
/-!
# Repetitions

How often the part before a sign or a count in braces occurs.
-/

namespace Attest.Pattern

namespace Reader

/-- Digits of a count, newest first, with blanks between them skipped. -/
def countDigits : Nat → List Char → Read (List Char)
  | 0, digits => return digits
  | fuel + 1, digits => do
    match (← ahead).head? with
    | some c =>
      if c.isDigit then
        let _ ← advanceBlanks
        countDigits fuel (c :: digits)
      else return digits
    | none => return digits

/-- Blanks around a count, which stand in every mode. -/
def countBlanks : Nat → Read Unit
  | 0 => return
  | fuel + 1 => do
    if (← ahead).head?.any Unicode.isBlank then
      let _ ← advanceBlanks
      countBlanks fuel

/-- Counts are numbers of 32 bits, which lie below this one. -/
def countBound : Nat := 4294967296

/-- A count, or the fault that there is none. -/
def count : Read (Except Fault Nat) := do
  skip ((← ahead).takeWhile Unicode.isBlank).length
  let start ← here
  let digits ← countDigits (← ahead).length []
  let span : Span := ⟨start, ← here⟩
  countBlanks (← ahead).length
  if digits.isEmpty then return .error ⟨.repetitionCountDecimalEmpty, span, none⟩
  let n := Number.digitsValue digits.reverse
  if n < countBound then return .ok n else return .error ⟨.decimalInvalid, span, none⟩

/-- The part that a repetition operator applies to, and the parts before it. -/
def repeated (items : List Tree) : Read (Tree × List Tree) := do
  match items with
  | [] | .empty _ :: _ | .flags _ _ :: _ => failHere .repetitionMissing
  | item :: before => return (item, before)

/-- `?`, `*` or `+` after parts, which are given newest first. -/
def simpleRepetition (items : List Tree) (least : Nat) (greatest : Option Nat) :
    Read (List Tree) := do
  let (item, before) ← repeated items
  if (← advance) && (← isNext '?') then skip 1
  return .repetition ⟨item.span.start, ← here⟩ least greatest item :: before

/-- A repetition in braces after parts, which are given newest first. -/
def countedRepetition (items : List Tree) : Read (List Tree) := do
  let start ← here
  let (item, before) ← repeated items
  if !(← advanceBlanks) then fail .repetitionCountUnclosed start (← here)
  let least ← count
  if ← atEnd then fail .repetitionCountUnclosed start (← here)
  let (least, greatest) ← show Read (Nat × Option Nat) from do
    if ← isNext ',' then
      if !(← advanceBlanks) then fail .repetitionCountUnclosed start (← here)
      if ← isNext '\x7d' then return (← least, none)
      else
        let low ← least
        let high ← count
        return (low, some (← high))
    else
      let n ← least
      return (n, some n)
  if !(← isNext '\x7d') then fail .repetitionCountUnclosed start (← here)
  if (← advanceBlanks) && (← isNext '?') then skip 1
  if greatest.any (· < least) then fail .repetitionCountInvalid start (← here)
  return .repetition ⟨item.span.start, ← here⟩ least greatest item :: before

end Reader

end Attest.Pattern
