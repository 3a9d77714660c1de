/-!
# Sets of code points

A set is a list of inclusive ranges. Sets in normal form are sorted and their ranges neither
overlap nor touch; the operations give normal forms.
-/

namespace Attest.Unicode

/-- Inclusive ranges of code points. -/
abbrev CodePoints := List (Nat × Nat)

/-- The greatest code point. -/
def maxCodePoint : Nat := 0x10FFFF

namespace CodePoints

/-- Some range holds the code point. -/
def contains (set : CodePoints) (point : Nat) : Bool :=
  set.any fun range => range.1 ≤ point && point ≤ range.2

/-- Joins ranges that overlap or touch, given in order of their first points. -/
def join : CodePoints → CodePoints
  | [] => []
  | range :: rest =>
    match join rest with
    | [] => [range]
    | next :: others =>
      if next.1 ≤ range.2 + 1 then (range.1, max range.2 next.2) :: others
      else range :: next :: others

def normalize (set : CodePoints) : CodePoints :=
  join (set.mergeSort fun a b => a.1 ≤ b.1)

def union (a b : CodePoints) : CodePoints :=
  normalize (a ++ b)

/-- The gaps of a normal form from `start` on. -/
def gapsFrom (start : Nat) : CodePoints → CodePoints
  | [] => if start ≤ maxCodePoint then [(start, maxCodePoint)] else []
  | range :: rest =>
    (if start < range.1 then [(start, range.1 - 1)] else []) ++ gapsFrom (range.2 + 1) rest

def complement (set : CodePoints) : CodePoints :=
  gapsFrom 0 set.normalize

def inter (a b : CodePoints) : CodePoints :=
  (a.complement.union b.complement).complement

def diff (a b : CodePoints) : CodePoints :=
  a.inter b.complement

def symmDiff (a b : CodePoints) : CodePoints :=
  (a.diff b).union (b.diff a)

end CodePoints

def unions (sets : List CodePoints) : CodePoints :=
  CodePoints.normalize sets.flatten

end Attest.Unicode
