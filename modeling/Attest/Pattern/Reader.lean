import Attest.Pattern.Reader.Bracket
import Attest.Pattern.Reader.Group
import Attest.Pattern.Reader.Repetition
/-!
# Reading patterns

A regular expression is read from left to right; open groups wait on a stack for their ends.
-/

namespace Attest.Pattern

namespace Reader

/-- Parts in a row, newest first, and where the row begins. -/
structure Row where
  start : Position
  items : List Tree

namespace Row

def tree (row : Row) (stop : Position) : Tree :=
  .ofItems ⟨row.start, stop⟩ row.items.reverse

end Row

/-- An open group with the row before it, or the branches before a `|`, newest first. -/
inductive GroupFrame
  | group (outer : Row) (span : Span) (captures : Bool) (flags : Flags) (verbose : Bool)
  | branches (start : Position) (trees : List Tree)

/-- The row at `stop`, together with the branches before it. -/
def closeBranches (frames : List GroupFrame) (row : Row) (stop : Position) :
    Tree × List GroupFrame :=
  match frames with
  | .branches start trees :: rest =>
    (.alternation ⟨start, stop⟩ (row.tree stop :: trees).reverse, rest)
  | _ => (row.tree stop, frames)

def verboseFlag? (flags : Flags) : Option Bool :=
  flags.lookup .ignoreWhitespace

def openGroup (frames : List GroupFrame) (row : Row) : Read (List GroupFrame × Row) := do
  match ← opening with
  | .flags span flags =>
    if let some verbose := verboseFlag? flags then modify fun s => { s with verbose }
    return (frames, { row with items := .flags span flags :: row.items })
  | .group span captures flags =>
    let verbose := (← get).verbose
    modify fun s => { s with verbose := (verboseFlag? flags).getD verbose }
    return (.group row span captures flags verbose :: frames, ⟨← here, []⟩)

def closeGroup (frames : List GroupFrame) (row : Row) : Read (List GroupFrame × Row) := do
  let (inner, frames) := closeBranches frames row (← here)
  match frames with
  | .group outer span captures flags verbose :: rest =>
    modify fun s => { s with verbose }
    skip 1
    let tree := .group ⟨span.start, ← here⟩ captures flags inner
    return (rest, { outer with items := tree :: outer.items })
  | _ => failNext .groupUnopened

def openBranch (frames : List GroupFrame) (row : Row) : Read (List GroupFrame × Row) := do
  let tree := row.tree (← here)
  let frames := match frames with
    | .branches start trees :: rest => .branches start (tree :: trees) :: rest
    | _ => .branches row.start [tree] :: frames
  skip 1
  return (frames, ⟨← here, []⟩)

def finish (frames : List GroupFrame) (row : Row) : Read Tree := do
  let (tree, frames) := closeBranches frames row (← here)
  match frames with
  | [] => return tree
  | .group _ span _ _ _ :: _ => fail .groupUnclosed span.start span.stop
  | .branches _ _ :: _ => failHere .groupUnclosed

/-- One character or escape outside of classes. -/
def part : Read Part := do
  match (← ahead).head? with
  | some '\\' => escape
  | some c =>
    let span : Span := ⟨← here, ← afterNext⟩
    skip 1
    match c with
    | '.' => return .dot span
    | '^' => return .condition span .lineStart
    | '$' => return .condition span .lineEnd
    | _ => return .letter ⟨span, c, false⟩
  | none => failHere .escapeUnexpectedEnd

/-- The parts of a row with the part or repetition that begins with `c`, which is ahead. -/
def rowItems (c : Char) (items : List Tree) : Read (List Tree) := do
  match c with
  | '[' => return (← bracketed) :: items
  | '?' => simpleRepetition items 0 (some 1)
  | '*' => simpleRepetition items 0 none
  | '+' => simpleRepetition items 1 none
  | '\x7b' => countedRepetition items
  | _ => return (← part).tree :: items

/-- The rest of a pattern with open frames and the row since the last of them. -/
def patternLoop : Nat → List GroupFrame → Row → Read Tree
  | 0, frames, row => finish frames row
  | fuel + 1, frames, row => do
    skipBlanks
    match (← ahead).head? with
    | none => finish frames row
    | some '(' =>
      let (frames, row) ← openGroup frames row
      patternLoop fuel frames row
    | some ')' =>
      let (frames, row) ← closeGroup frames row
      patternLoop fuel frames row
    | some '|' =>
      let (frames, row) ← openBranch frames row
      patternLoop fuel frames row
    | some c =>
      let items ← rowItems c row.items
      patternLoop fuel frames { row with items }

end Reader

/-- Levels of nesting that a pattern may have. -/
def nestLimit : Nat := 250

def Tree.read (pattern : String) : Except Fault Tree := do
  let cs := pattern.toList
  let reading := Reader.patternLoop (cs.length + 1) [] ⟨.start, []⟩
  let (tree, _) ← reading.run ⟨.start, cs, false, []⟩
  match tree.tooDeep? nestLimit with
  | some span => throw ⟨.nestLimitExceeded nestLimit, span, none⟩
  | none => return tree

end Attest.Pattern
