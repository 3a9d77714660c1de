import Attest.Pattern.Property
import Attest.Pattern.Reader
import Attest.Unicode.Folding
/-!
# Meaning of patterns

A pattern in which the flags have been applied: sets of characters and conditions on places,
put together by sequence, choice and repetition.
-/

namespace Attest.Pattern

open Unicode

/-- A condition on a place, with the flags that bear on it. -/
inductive Look
  | textStart
  | textEnd
  | lineStart (crlf : Bool)
  | lineEnd (crlf : Bool)
  | boundary (kind : Boundary) (unicode : Bool)
  deriving DecidableEq, Repr

inductive Expr
  | empty
  | set (points : CodePoints)
  | look (look : Look)
  | capture (inner : Expr)
  | repetition (least : Nat) (greatest : Option Nat) (inner : Expr)
  | concat (items : List Expr)
  | alternation (branches : List Expr)
  deriving Repr

/-- Which flags hold at a part of a pattern. -/
structure Mode where
  caseInsensitive : Bool := false
  multiLine : Bool := false
  dotMatchesNewLine : Bool := false
  unicode : Bool := true
  crlf : Bool := false

namespace Mode

def switch (mode : Mode) : Flag × Bool → Mode
  | (.caseInsensitive, on) => { mode with caseInsensitive := on }
  | (.multiLine, on) => { mode with multiLine := on }
  | (.dotMatchesNewLine, on) => { mode with dotMatchesNewLine := on }
  | (.unicode, on) => { mode with unicode := on }
  | (.crlf, on) => { mode with crlf := on }
  | (.swapGreed, _) | (.ignoreWhitespace, _) => mode

def apply (mode : Mode) (flags : Flags) : Mode :=
  flags.foldl switch mode

end Mode

/-! ### Sets -/

/-- The set with every point that is equal to one of its own but for case. -/
def foldClosure (set : CodePoints) : CodePoints :=
  let added := foldedPoints.flatMap fun point =>
    if set.contains (fold point) then [point]
    else if set.contains point then caseOrbit point
    else []
  set.union (added.map fun point => (point, point))

/-- The set with both cases of its ASCII letters. -/
def asciiClosure (set : CodePoints) : CodePoints :=
  let added := (List.range 26).flatMap fun i =>
    if set.contains (65 + i) || set.contains (97 + i) then [65 + i, 97 + i] else []
  set.union (added.map fun point => (point, point))

/-- A set within classes: case and negation applied. Bytes above ASCII are no characters. -/
def finishSet (mode : Mode) (span : Span) (negated : Bool) (set : CodePoints) :
    Except Fault CodePoints :=
  if mode.unicode then
    let closed := if mode.caseInsensitive then foldClosure set else set
    .ok (if negated then closed.complement else closed)
  else if negated then .error ⟨.invalidUtf8, span, none⟩
  else .ok (if mode.caseInsensitive then asciiClosure set else set)

def propertySet (mode : Mode) (p : PropertyClass) : Except Fault CodePoints :=
  if mode.unicode then
    match querySet p.query with
    | .ok set => finishSet mode p.span p.negated set
    | .error kind => .error ⟨kind, p.span, none⟩
  else .error ⟨.unicodeNotAllowed, p.span, none⟩

def shorthandClassSet (mode : Mode) (s : ShorthandClass) : Except Fault CodePoints :=
  let set := shorthandSet mode.unicode s.kind
  if !s.negated then .ok set
  else if mode.unicode then .ok set.complement
  else .error ⟨.invalidUtf8, s.span, none⟩

/-- The code point of a letter within a class. -/
def memberPoint (mode : Mode) (l : Letter) : Except Fault Nat :=
  if mode.unicode || l.char.toNat < 128 then .ok l.char.toNat
  else if l.byte then .error ⟨.invalidUtf8, l.span, none⟩
  else .error ⟨.unicodeNotAllowed, l.span, none⟩

def closeCase (mode : Mode) (set : CodePoints) : CodePoints :=
  if !mode.caseInsensitive then set
  else if mode.unicode then foldClosure set
  else asciiClosure set

def applyOperation : SetOperation → CodePoints → CodePoints → CodePoints
  | .intersection, a, b => a.inter b
  | .difference, a, b => a.diff b
  | .symmetricDifference, a, b => a.symmDiff b

mutual

def classSet (mode : Mode) : ClassTree → Except Fault CodePoints
  | .empty _ => .ok []
  | .letter l => do
    let point ← memberPoint mode l
    return [(point, point)]
  | .range _ first last => do
    let low ← memberPoint mode first
    let high ← memberPoint mode last
    return [(low, high)]
  | .named span name negated => finishSet mode span negated (namedSet name)
  | .property p => propertySet mode p
  | .shorthand s => shorthandClassSet mode s
  | .bracketed span negated inner => do
    finishSet mode span negated (← classSet mode inner)
  | .union _ items => classUnion mode items
  | .operation _ kind left right => do
    let left ← classSet mode left
    let right ← classSet mode right
    return applyOperation kind (closeCase mode left) (closeCase mode right)

def classUnion (mode : Mode) : List ClassTree → Except Fault CodePoints
  | [] => .ok []
  | item :: rest => do
    let first ← classSet mode item
    let others ← classUnion mode rest
    return first.union others

end

/-! ### Expressions -/

def letterExpr (mode : Mode) (l : Letter) : Except Fault Expr :=
  let point := l.char.toNat
  if !mode.unicode && l.byte && 128 ≤ point then .error ⟨.invalidUtf8, l.span, none⟩
  else if !mode.caseInsensitive then .ok (.set [(point, point)])
  else if mode.unicode then
    .ok (.set (unions [(caseOrbit point).map fun p => (p, p)]))
  else .ok (.set (asciiClosure [(point, point)]))

def dotExpr (mode : Mode) (span : Span) : Except Fault Expr :=
  if !mode.unicode then .error ⟨.invalidUtf8, span, none⟩
  else if mode.dotMatchesNewLine then .ok (.set [(0, maxCodePoint)])
  else if mode.crlf then .ok (.set [(0, 9), (11, 12), (14, maxCodePoint)])
  else .ok (.set [(0, 9), (11, maxCodePoint)])

def lookOf (mode : Mode) : Condition → Look
  | .lineStart => if mode.multiLine then .lineStart mode.crlf else .textStart
  | .lineEnd => if mode.multiLine then .lineEnd mode.crlf else .textEnd
  | .textStart => .textStart
  | .textEnd => .textEnd
  | .boundary kind => .boundary kind mode.unicode

namespace Expr

mutual

/-- The meaning of a part, and the flags for what follows it. -/
def ofTree (mode : Mode) : Tree → Except Fault (Expr × Mode)
  | .empty _ => .ok (.empty, mode)
  | .flags _ flags => .ok (.empty, mode.apply flags)
  | .letter l => do return (← letterExpr mode l, mode)
  | .dot span => do return (← dotExpr mode span, mode)
  | .condition _ condition => .ok (.look (lookOf mode condition), mode)
  | .property p => do return (.set (← propertySet mode p), mode)
  | .shorthand s => do return (.set (← shorthandClassSet mode s), mode)
  | .bracketed span negated inner => do
    return (.set (← finishSet mode span negated (← classSet mode inner)), mode)
  | .repetition _ least greatest inner => do
    let (inner, after) ← ofTree mode inner
    return (.repetition least greatest inner, after)
  | .group _ captures flags inner => do
    let (inner, _) ← ofTree (mode.apply flags) inner
    return (if captures then .capture inner else inner, mode)
  | .alternation _ branches => do
    let (branches, after) ← ofTrees mode branches
    return (.alternation branches, after)
  | .concat _ items => do
    let (items, after) ← ofTrees mode items
    return (.concat items, after)

def ofTrees (mode : Mode) : List Tree → Except Fault (List Expr × Mode)
  | [] => .ok ([], mode)
  | tree :: rest => do
    let (first, next) ← ofTree mode tree
    let (others, after) ← ofTrees next rest
    return (first :: others, after)

end

end Expr

end Attest.Pattern
