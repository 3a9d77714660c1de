import Attest.Proofs.Syntax.Rules
import Attest.Syntax.Grammar
/-!
# The syntax tree as it grows

A recorder reads what the parsers of the grammar read, and keeps the syntax tree while it does so.
A construct is added to the tree where it begins, within those that are open there, and each
construct is closed by hand, also where its reading was given up. Every point of a parse is kept.
-/

namespace Attest

namespace Recorder

/-- A point of a parse. -/
structure Point where
  ahead : List Lexeme
  tree : SyntaxTree := {}
  /-- The nodes of the constructs that are open, the innermost first. -/
  scope : List Nat := []
  errors : List SyntaxError := []
  /-- The names that were declared. -/
  declared : List String := []
  /-- The limit of a loop or of the recursion was reached. -/
  exhausted : Bool := false

namespace Point

def advance (p : Point) : Point :=
  { p with ahead := p.ahead.tail }

def overwrite (t : Token) (p : Point) : Point :=
  { p with ahead := p.ahead.modifyHead ({ · with token := t }) }

def declare (name : String) (p : Point) : Point :=
  { p with declared := p.declared ++ [name] }

/-- Adds a construct within the innermost open one, and opens it. -/
def enter (construct : Construct) (p : Point) : Point :=
  { p with tree := p.tree.push p.scope.head? construct, scope := p.tree.size :: p.scope }

/-- Completes a construct, and closes it unless another one within it is still open. -/
def leave (id : Nat) (construct : Construct) (p : Point) : Point :=
  { p with
    tree := p.tree.set id construct
    scope := if p.scope.head? = some id then p.scope.tail else p.scope }

def record (e : SyntaxError) (p : Point) : Point :=
  { p with errors := p.errors ++ [e] }

end Point

/-- The point that a parse is at, and those that it went through, the latest first. -/
structure Trace where
  now : Point
  past : List Point := []

namespace Trace

def points (t : Trace) : List Point :=
  t.now :: t.past

def step (t : Trace) (change : Point → Point) : Trace :=
  ⟨change t.now, t.points⟩

end Trace

/-- The end of a reading, with its result unless it was given up. -/
structure Ending (δ α : Type) where
  result : Option α
  draft : δ
  trace : Trace

end Recorder

/-- Reads on from a point, and revises a draft of the construct that it reads. -/
def Recorder (δ α : Type) : Type :=
  δ → Recorder.Trace → Recorder.Ending δ α

namespace Recorder

variable {δ ε α : Type}

instance : Monad (Recorder δ) where
  pure x := fun draft t => ⟨some x, draft, t⟩
  bind p f := fun draft t =>
    match p draft t with
    | ⟨some x, draft, t⟩ => f x draft t
    | ⟨none, draft, t⟩ => ⟨none, draft, t⟩

def now : Recorder δ Point := fun draft t =>
  ⟨some t.now, draft, t⟩

def step (change : Point → Point) : Recorder δ Unit := fun draft t =>
  ⟨some (), draft, t.step change⟩

def giveUp : Recorder δ α := fun draft t =>
  ⟨none, draft, t⟩

def propagate : Option α → Recorder δ α
  | some x => pure x
  | none => giveUp

/-! ### Drafts -/

def draft : Recorder δ δ := fun draft t =>
  ⟨some draft, draft, t⟩

def revise (change : δ → δ) : Recorder δ Unit := fun draft t =>
  ⟨some (), change draft, t⟩

/-- The result of a reading with a draft of its own, if it was not given up, and that draft. -/
def fresh (initial : ε) (p : Recorder ε α) : Recorder δ (Option α × ε) := fun draft t =>
  let ending := p initial t
  ⟨some (ending.result, ending.draft), draft, ending.trace⟩

/-- The result of a reading that drafts nothing, if it was not given up. -/
def attempt (p : Recorder Unit α) : Recorder δ (Option α) :=
  return (← fresh () p).1

/-- Reads with a part of the draft. -/
def lend (get : δ → ε) (put : ε → δ → δ) (p : Recorder ε α) : Recorder δ α := fun draft t =>
  let ending := p (get draft) t
  ⟨ending.result, put ending.draft draft, ending.trace⟩

/-! ### Tokens -/

def token : Recorder δ Token :=
  return nextToken (← now).ahead

def line : Recorder δ Nat :=
  return nextLine (← now).ahead

def advance : Recorder δ Unit :=
  step Point.advance

def overwrite (t : Token) : Recorder δ Unit :=
  step (.overwrite t)

/-- Gives up at the limit of a loop or of the recursion. -/
def exhaust : Recorder δ α := do
  step fun p => { p with exhausted := true }
  giveUp

/-! ### Constructs -/

/-- Opens a construct, and gives its number. -/
def enter (construct : Construct) : Recorder δ Nat := do
  let id := (← now).tree.size
  step (.enter construct)
  return id

def leave (id : Nat) (construct : Construct) : Recorder δ Unit :=
  step (.leave id construct)

def errorAt (node line : Nat) (message : String) : Recorder δ Unit :=
  step (.record ⟨message, line, node⟩)

/-- An error of the innermost open construct. Without one there is a node for the error alone. -/
def errorOn (line : Nat) (message : String) : Recorder δ Unit := do
  match (← now).scope.head? with
  | some node => errorAt node line message
  | none =>
    let root := (← now).tree.size
    step fun p => { p with tree := p.tree.push none .model }
    errorAt root line message

def failOn (line : Nat) (fault : SyntaxFault) : Recorder δ α := do
  errorOn line fault.message
  giveUp

def fail (fault : SyntaxFault) : Recorder δ α := do
  failOn (← line) fault

def unexpected (expected : Expected) : Recorder δ α := do
  fail (.ofToken expected (← token))

def expect (t : Token) (expected : Expected) : Recorder δ Unit := do
  if (← token) = t then advance else unexpected expected

/-! ### Paths -/

/-- The step behind a point. -/
def stepName : Recorder Path Unit := do
  match ← token with
  | .identifier name => advance; revise (· ++ [.field name])
  | .star => advance; revise (· ++ [.wildcard])
  | _ => unexpected .stepName

/-- The step behind an opening bracket, and the closing one. -/
def stepKey : Recorder Path Unit := do
  match Parser.bracketStep (← token) with
  | .error fault => fail fault
  | .ok step =>
    advance
    let id ← enter (.step step)
    let closed ← attempt (expect .rightBracket .rightBracket)
    leave id (.step step)
    propagate closed
    revise (· ++ [step])

def bracketStep : Recorder Path Unit := do
  advance
  stepKey

def stepsWithin : Nat → Recorder Path Unit
  | 0 => exhaust
  | limit + 1 => do
    match ← token with
    | .dot => advance; stepName; stepsWithin limit
    | .leftBracket => bracketStep; stepsWithin limit
    | _ => return ()

def steps : Recorder Path Unit := do
  stepsWithin ((← now).ahead.length + 1)

def path : Recorder Path Unit := do
  match ← token with
  | .dollar => advance; steps
  | .identifier name => revise (· ++ [.field name]); advance; steps
  | .star => revise (· ++ [.wildcard]); advance; steps
  | .leftBracket => bracketStep; steps
  | _ => unexpected .path

/-! ### Operands -/

/-- Takes the current token out, and puts it back if it is no literal. -/
def literal : Recorder δ Literal := do
  let taken ← token
  overwrite .endOfInput
  match Parser.literal? taken with
  | some value => advance; return value
  | none => overwrite taken; unexpected .literal

def operandBody : Recorder Unit Operand := do
  let here ← token
  match Parser.literal? here, here with
  | some _, _ => return .literal (← literal)
  | none, .variable name => bound name
  | none, .identifier name =>
    if (← now).declared.contains name then bound name else rooted
  | none, .dollar | none, .star | none, .leftBracket => rooted
  | none, _ => unexpected .operand
where
  bound (name : String) : Recorder Unit Operand := do
    advance
    let (result, path) ← fresh [] steps
    propagate result
    return .variable name path
  rooted : Recorder Unit Operand := do
    let (result, path) ← fresh [] path
    propagate result
    return .path path

def operand : Recorder δ Operand := do
  let id ← enter .operand
  let result ← attempt operandBody
  leave id .operand
  propagate result

/-! ### Assertions -/

def comma (form : Form) : Recorder δ Unit := do
  match ← token with
  | .comma => advance
  | .rightParen => fail (.tooFewArguments form)
  | _ => unexpected .comma

/-- As many arguments more. -/
def argumentsMore : Nat → Recorder Predicate Unit
  | 0 => return ()
  | count + 1 => do
    comma (← draft).form
    let line ← line
    let value ← literal
    revise fun p => { p with arguments := p.arguments ++ [value] }
    match SyntaxFault.ofArgument? (← draft).form value with
    | some fault => failOn line fault
    | none => argumentsMore count

def arguments : Recorder Predicate Unit := do
  argumentsMore (← draft).form.signature.arguments

def quantifier : Recorder AssertionDraft (Option Quantifier) := do
  match ← token with
  | .allWord => advance; revise ({ · with quantifier := some .all }); return some .all
  | .anyWord => advance; revise ({ · with quantifier := some .any }); return some .any
  | _ => revise ({ · with quantifier := none }); return none

def formName : Recorder AssertionDraft String := do
  match ← token with
  | .identifier name => advance; revise ({ · with form := some name }); return name
  | _ => unexpected .form

def form (line : Nat) (name : String) (quantifier : Option Quantifier) : Recorder δ Form :=
  match Form.ofName? name, quantifier with
  | none, _ => failOn line (.unknownForm name)
  | some form, none => return form
  | some form, some quantifier =>
    if form.countsNodes then failOn line (.quantifiedCount form quantifier) else return form

/-- An operand of a form. A form that counts nodes takes no literal. -/
def formOperand (form : Form) : Recorder AssertionDraft Operand := do
  let line ← line
  let operand ← operand
  revise fun d => { d with items := d.items ++ [operand.text] }
  match operand with
  | .literal value =>
    if form.countsNodes then failOn line (.literalOperand form value) else return operand
  | _ => return operand

/-- As many operands more, with a comma before all but the first. -/
def operandsMore (form : Form) (position : Nat) : Nat → Recorder AssertionDraft (List Operand)
  | 0 => return []
  | count + 1 => do
    if 0 < position then comma form
    let first ← formOperand form
    let rest ← operandsMore form (position + 1) count
    return first :: rest

def closing (form : Form) : Recorder δ Unit := do
  if (← token) = .comma then fail (.tooManyArguments form)
  else expect .rightParen .rightParen

def assertionBody : Recorder AssertionDraft Assertion := do
  let quantifier ← quantifier
  let line ← line
  let name ← formName
  let form ← form line name quantifier
  expect .leftParen .leftParen
  let operands ← operandsMore form 0 form.signature.operands
  let id ← enter (.predicate ⟨form, []⟩)
  let (result, predicate) ← fresh ⟨form, []⟩ arguments
  leave id (.predicate predicate)
  revise fun d => { d with items := d.items ++ predicate.arguments.map Literal.text }
  propagate result
  closing form
  match operands with
  | left :: others => return ⟨quantifier, predicate, left, others.head?⟩
  | [] =>
    errorOn (← Recorder.line) ("'" ++ form.name ++ "' is missing its operand")
    giveUp

def assertion : Recorder δ Assertion := do
  let id ← enter (.assertion {})
  let (result, draft) ← fresh {} assertionBody
  leave id (.assertion { draft with complete := result.isSome })
  propagate result

/-! ### Trees of assertions -/

/-- What follows each of the separators ahead, of which there are fewer than `limit`. -/
def afterEach (separator : Token) (part : Recorder Unit AssertionTree) :
    Nat → Recorder Unit (List AssertionTree)
  | 0 => exhaust
  | limit + 1 => do
    if (← token) = separator then
      advance
      let first ← part
      let rest ← afterEach separator part limit
      return first :: rest
    else return []

def chain (separator : Token) (join : List AssertionTree → AssertionTree)
    (part : Recorder Unit AssertionTree) : Recorder Unit AssertionTree := do
  let first ← part
  let rest ← afterEach separator part ((← now).ahead.length + 1)
  return if rest.isEmpty then first else join (first :: rest)

def conjunction (part : Recorder Unit AssertionTree) : Recorder Unit AssertionTree :=
  chain .andWord .and part

def disjunction (part : Recorder Unit AssertionTree) : Recorder Unit AssertionTree :=
  chain .orWord .or (conjunction part)

def leaf : Recorder Unit AssertionTree := do
  match ← token with
  | .allWord | .anyWord | .identifier _ => return .leaf (← assertion)
  | _ => unexpected .assertion

/-- A leaf, a negation or a group. Fewer than `frames` of them are read one within the other. -/
def part : Nat → Recorder Unit AssertionTree
  | 0 => exhaust
  | frames + 1 => do
    let here ← token
    if (here = .notWord ∨ here = .leftParen) ∧ maxNesting < (← now).scope.length then
      fail .tooNested
    else match here with
    | .notWord =>
      let id ← enter .negation
      let inner ← attempt do
        advance
        return .not (← part frames)
      leave id .negation
      propagate inner
    | .leftParen =>
      let id ← enter .group
      let inner ← attempt do
        advance
        let tree ← disjunction (part frames)
        expect .rightParen .rightParen
        return tree
      leave id .group
      propagate inner
    | _ => leaf

/-! ### Statements -/

def statement (frames : Nat) : Recorder Unit AssertionTree := do
  let tree ← disjunction (part frames)
  match ← token with
  | .semicolon => advance
  | .endOfInput => pure ()
  | _ => unexpected .statementEnd
  return tree

def variableName : Recorder DeclarationDraft String := do
  match ← token with
  | .identifier name => advance; revise ({ · with name := some name }); return name
  | _ => unexpected .variableName

/-- A declaration behind its `let`. -/
def afterLet : Recorder DeclarationDraft Declaration := do
  let name ← variableName
  expect .equals .equalsSign
  lend (·.path) (fun path d => { d with path }) path
  expect .semicolon .declarationEnd
  step (.declare name)
  return ⟨name, (← draft).path⟩

def declarationBody : Recorder DeclarationDraft Declaration := do
  advance
  afterLet

/-- A late declaration is read, and reported once it is closed. -/
def declaration (late : Bool) : Recorder Unit Declaration := do
  let line ← line
  let id ← enter (.declaration {})
  let (result, draft) ← fresh {} declarationBody
  leave id (.declaration { draft with complete := result.isSome })
  let d ← propagate result
  if late then errorAt id line SyntaxFault.lateDeclaration.message
  return d

def synchronizeWithin : Nat → Recorder δ Unit
  | 0 => exhaust
  | limit + 1 => do
    match ← token with
    | .endOfInput | .letWord => return ()
    | .semicolon => advance
    | _ => advance; synchronizeWithin limit

/-- Goes on to where the next statement may begin. -/
def synchronize : Recorder δ Unit := do
  synchronizeWithin ((← now).ahead.length + 1)

/-! ### Sources -/

/-- What was read of a source. -/
structure Found where
  declarations : List Declaration := []
  statements : List AssertionTree := []

namespace Found

def declare (found : Found) (d : Declaration) : Found :=
  { found with declarations := found.declarations ++ [d] }

def assert (found : Found) (tree : AssertionTree) : Found :=
  { found with statements := found.statements ++ [tree] }

end Found

/-- Adds what was read, or goes on to the next statement where reading failed. -/
def resume (add : Found → α → Found) : Option α → Recorder Found Unit
  | some x => revise (add · x)
  | none => synchronize

def declare : Recorder Found Unit := do
  let late := !(← draft).statements.isEmpty
  resume Found.declare (← attempt (declaration late))

def assert (frames : Nat) : Recorder Found Unit := do
  resume Found.assert (← attempt (statement frames))

def round (frames : Nat) : Recorder Found Unit := do
  match ← token with
  | .letWord => declare
  | .semicolon => advance
  | _ => assert frames

def rounds (frames : Nat) : Nat → Recorder Found Unit
  | 0 => exhaust
  | limit + 1 => do
    if (← token) = .endOfInput then return ()
    else
      round frames
      rounds frames limit

/-- A source without errors has an assertion. -/
def requireAssertion : Recorder Found Unit := do
  if (← draft).statements.isEmpty && (← now).errors.isEmpty then
    errorOn (← line) SyntaxFault.noAssertion.message

def model (frames : Nat) : Recorder Found Unit := do
  let root ← enter .model
  rounds frames ((← now).ahead.length + 1)
  requireAssertion
  leave root .model

/-- The parse of a whole source, with room for a recursion of `frames` parts. -/
def parse (frames : Nat) (lexemes : List Lexeme) : Ending Found Unit :=
  model frames {} { now := { ahead := lexemes } }

/-- What a parse gives. -/
def Ending.specification (ending : Ending Found Unit) : Except SyntaxErrors Specification :=
  if ending.trace.now.errors.isEmpty then
    .ok ⟨ending.draft.declarations, Rules.joined .and ending.draft.statements⟩
  else .error ⟨ending.trace.now.errors, ending.trace.now.tree⟩

end Recorder

end Attest
