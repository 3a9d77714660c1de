import Attest.Pattern.Expr
/-!
# Matching

An expression leads from the places of a text where it may begin to those where it may end. A
place is the number of characters before it; sets of places are sorted lists.
-/

namespace Attest.Pattern

open Unicode

namespace Look

def isWordAt (unicode : Bool) (c : Option Char) : Bool :=
  c.any fun c => (shorthandSet unicode .word).contains c.toNat

/-- The condition holds between two characters of a text. -/
def holdsBetween (before after : Option Char) : Look → Bool
  | .textStart => before.isNone
  | .textEnd => after.isNone
  | .lineStart false => before.all (· == '\n')
  | .lineEnd false => after.all (· == '\n')
  | .lineStart true => before.all fun c => c == '\n' || (c == '\r' && after != some '\n')
  | .lineEnd true => after.all fun c => c == '\r' || (c == '\n' && before != some '\r')
  | .boundary kind unicode =>
    let left := isWordAt unicode before
    let right := isWordAt unicode after
    match kind with
    | .word => left != right
    | .notWord => left == right
    | .wordStart => !left && right
    | .wordEnd => left && !right
    | .wordStartHalf => !left
    | .wordEndHalf => !right

/-- The condition holds at a place. -/
def holdsAt (text : Array Char) (look : Look) (place : Nat) : Bool :=
  look.holdsBetween (if place = 0 then none else text[place - 1]?) text[place]?

end Look

namespace Places

def dropRepeats : List Nat → List Nat
  | a :: b :: rest => if a = b then dropRepeats (b :: rest) else a :: dropRepeats (b :: rest)
  | short => short

def union (a b : List Nat) : List Nat :=
  dropRepeats (List.merge a b fun x y => x ≤ y)

def mark (seen : Array Bool) (places : List Nat) : Array Bool :=
  places.foldl (fun seen place => seen.setIfInBounds place true) seen

/-- Places that at most `limit` steps of `next` lead to from the frontier, marked together with
those seen before. -/
def reach (next : List Nat → List Nat) : Nat → List Nat → Array Bool → Array Bool
  | 0, _, seen => seen
  | limit + 1, frontier, seen =>
    match (next frontier).filter fun place => !seen.getD place true with
    | [] => seen
    | fresh => reach next limit fresh (mark seen fresh)

/-- Places among `0, …, count - 1` that at most `limit` steps of `next` lead to. -/
def within (next : List Nat → List Nat) (count limit : Nat) (start : List Nat) : List Nat :=
  let seen := reach next limit start (mark (Array.replicate count false) start)
  (List.range count).filter fun place => seen.getD place false

/-- Places that exactly `steps` steps of `next` lead to. -/
def exactly (next : List Nat → List Nat) : Nat → List Nat → List Nat
  | 0, places => places
  | steps + 1, places => if places.isEmpty then [] else exactly next steps (next places)

end Places

namespace Expr

mutual

/-- Where the expression may end if it begins at one of the places. More repetitions than the text
has places change nothing. -/
def ends (text : Array Char) : Expr → List Nat → List Nat
  | .empty, places => places
  | .set points, places => places.filterMap fun place =>
    match text[place]? with
    | some c => if points.contains c.toNat then some (place + 1) else none
    | none => none
  | .look condition, places => places.filter (condition.holdsAt text)
  | .capture inner, places => ends text inner places
  | .repetition least greatest inner, places =>
    let count := text.size + 1
    let start := Places.exactly (ends text inner) (min least count) places
    let more := match greatest with
      | some greatest => min (greatest - least) count
      | none => count
    Places.within (ends text inner) count more start
  | .concat items, places => concatEnds text items places
  | .alternation branches, places => alternationEnds text branches places

def concatEnds (text : Array Char) : List Expr → List Nat → List Nat
  | [], places => places
  | item :: rest, places => concatEnds text rest (ends text item places)

def alternationEnds (text : Array Char) : List Expr → List Nat → List Nat
  | [], _ => []
  | branch :: rest, places =>
    Places.union (ends text branch places) (alternationEnds text rest places)

end

/-- Some part of the text matches. -/
def matchesIn (e : Expr) (text : String) : Bool :=
  let chars := text.toList.toArray
  !(e.ends chars (List.range (chars.size + 1))).isEmpty

end Expr

end Attest.Pattern
