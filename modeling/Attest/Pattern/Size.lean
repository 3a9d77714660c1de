import Attest.Pattern.Expr
/-!
# Sizes of patterns

The bytes that an automaton for an expression takes. It reads UTF-8 backwards, so a set of
characters has a state for each distinct beginning of its byte sequences. Expressions whose
automaton is too large are refused.
-/

namespace Attest.Pattern

open Unicode

/-- Bytes of a state of the automaton. -/
def stateSize : Nat := 32

/-- Automata of more bytes are refused. -/
def sizeLimit : Nat := 10485760

namespace Utf8

def encode (point : Nat) : List Nat :=
  if point < 0x80 then [point]
  else if point < 0x800 then [0xC0 + point / 64, 0x80 + point % 64]
  else if point < 0x10000 then [0xE0 + point / 4096, 0x80 + point / 64 % 64, 0x80 + point % 64]
  else [0xF0 + point / 262144, 0x80 + point / 4096 % 64, 0x80 + point / 64 % 64, 0x80 + point % 64]

/-- Ranges of code points with encodings of one length, without the surrogates. -/
def planes : CodePoints := [
  (0, 0x7F), (0x80, 0x7FF), (0x800, 0xD7FF), (0xE000, 0xFFFF), (0x10000, maxCodePoint)]

/-- Splits a range at multiples of `block`, and its middle at multiples of larger blocks, so that
every part is a product of byte ranges. -/
def splitBlocks : Nat → Nat → Nat × Nat → CodePoints
  | 0, _, range => [range]
  | levels + 1, block, (first, last) =>
    if first / block = last / block then [(first, last)]
    else
      let start := (first + block - 1) / block * block
      let stop := (last + 1) / block * block
      (if first < start then [(first, start - 1)] else []) ++
        (if start < stop then splitBlocks levels (block * 64) (start, stop - 1) else []) ++
        (if stop ≤ last then [(stop, last)] else [])

/-- Sequences of byte ranges that encode the points of a range. -/
def sequences (range : Nat × Nat) : List (List (Nat × Nat)) :=
  planes.flatMap fun plane =>
    let first := max range.1 plane.1
    let last := min range.2 plane.2
    if last < first then []
    else (splitBlocks 3 64 (first, last)).map fun (a, b) => (encode a).zip (encode b)

/-- How many items two lists begin with in common. -/
def sharedLength : List (Nat × Nat) → List (Nat × Nat) → Nat
  | a :: as, b :: bs => if a = b then sharedLength as bs + 1 else 0
  | _, _ => 0

/-- How many distinct beginnings sorted sequences have, those of `previous` apart. -/
def beginnings (previous : List (Nat × Nat)) : List (List (Nat × Nat)) → Nat
  | [] => 0
  | s :: rest => s.length - sharedLength previous s + beginnings s rest

end Utf8

/-- Bytes for a set of characters. -/
def setWeight (points : CodePoints) : Nat :=
  match points with
  | [] => stateSize
  | [(first, last)] =>
    if first = last then stateSize * (Utf8.encode first).length else general
  | _ => general
where
  general : Nat :=
    if points.all fun range => range.2 < 0x80 then 2 * stateSize + 8 * points.length
    else
      let sequences := points.flatMap Utf8.sequences
      (2 + Utf8.beginnings [] sequences) * stateSize + 4 * sequences.length

/-- Bytes for a repetition of something of `weight` bytes. -/
def repetitionWeight (least : Nat) (greatest : Option Nat) (weight : Nat) : Nat :=
  match greatest with
  | none => max least 1 * weight + stateSize + 8
  | some greatest =>
    least * weight + (if least = 0 then stateSize else 0) +
      (if least < greatest then stateSize + (greatest - least) * (weight + stateSize + 8) else 0)

namespace Expr

mutual

/-- The expression matches nothing but the empty text. -/
def onlyEmpty : Expr → Bool
  | .empty | .look _ => true
  | .set _ => false
  | .capture inner => onlyEmpty inner
  | .repetition _ greatest inner => greatest == some 0 || onlyEmpty inner
  | .concat items => allOnlyEmpty items
  | .alternation branches => allOnlyEmpty branches

def allOnlyEmpty : List Expr → Bool
  | [] => true
  | item :: rest => onlyEmpty item && allOnlyEmpty rest

end

mutual

/-- Bytes of the automaton for the expression. -/
def weight : Expr → Nat
  | .empty | .look _ => stateSize
  | .set points => setWeight points
  | .capture inner => 2 * stateSize + weight inner
  | .repetition least greatest inner =>
    if inner.onlyEmpty then
      repetitionWeight (min least 1) (some (min (greatest.getD 1) 1)) (weight inner)
    else repetitionWeight least greatest (weight inner)
  | .concat items => weights items
  | .alternation branches => 2 * stateSize + 4 * branches.length + weights branches

def weights : List Expr → Nat
  | [] => 0
  | item :: rest => weight item + weights rest

end

/-- The automaton for the expression is not too large, with its frame. -/
def fits (e : Expr) : Bool :=
  e.weight + 6 * stateSize ≤ sizeLimit

end Expr

end Attest.Pattern
