import Attest.Syntax.Parser
import Attest.Syntax.Tree
/-!
# Grammar

The parsers of paths, operands, assertions and declarations, and of a whole source. After a
failure the reading goes on behind the next semicolon or at the next declaration, so that every
broken statement is reported.
-/

namespace Attest

namespace Parser

/-! ### Paths -/

/-- The step that a token between brackets stands for. -/
def bracketStep : Token → Except SyntaxFault Step
  | .integer n => if 0 ≤ n then .ok (.index n.toNat) else .error (.negativeIndex n)
  | .string key => .ok (.field key)
  | .star => .ok .wildcard
  | found => .error (.ofToken .stepKey found)

/-- The steps ahead, after those already found, which the construct around them shows. -/
def steps (around : Path → Construct) (found : Path) : Parser Path
  | ⟨.dot, _, _⟩ :: ahead =>
    match ahead with
    | ⟨.identifier name, _, _⟩ :: ahead => steps around (found ++ [.field name]) ahead
    | ⟨.star, _, _⟩ :: ahead => steps around (found ++ [.wildcard]) ahead
    | ahead => within (around found) (unexpected .stepName) ahead
  | ⟨.leftBracket, _, _⟩ :: ahead =>
    match ahead with
    | [] => within (around found) (unexpected .stepKey) []
    | key :: ahead =>
      match bracketStep key.token with
      | .error fault => within (around found) (fail fault) (key :: ahead)
      | .ok step =>
        match ahead with
        | ⟨.rightBracket, _, _⟩ :: ahead => steps around (found ++ [step]) ahead
        | ahead => within (around found) (within (.step step) (unexpected .rightBracket)) ahead
  | ahead => .ok (found, ahead)

/-- A path: `$`, a field name, `*` or a step between brackets, then further steps. -/
def path (around : Path → Construct) : Parser Path := do
  match ← peek with
  | .dollar => advance; steps around []
  | .identifier name => advance; steps around [.field name]
  | .star => advance; steps around [.wildcard]
  | .leftBracket => steps around []
  | _ => within (around []) (unexpected .path)

/-! ### Operands -/

def literal? : Token → Option Literal
  | .integer value => some (.integer value)
  | .float value => some (.float value)
  | .string value => some (.string value)
  | .boolean value => some (.boolean value)
  | .null => some .null
  | _ => none

def literal : Parser Literal := do
  match literal? (← peek) with
  | some value => advance; return value
  | none => unexpected .literal

/-- A name that was declared is a variable also without `$`. -/
def operand (declared : List String) : Parser Operand := do
  let token ← peek
  match literal? token, token with
  | some value, _ => advance; return .literal value
  | none, .variable name => bound name
  | none, .identifier name => if declared.contains name then bound name else rooted
  | none, .dollar | none, .star | none, .leftBracket => rooted
  | none, _ => within .operand (unexpected .operand)
where
  bound (name : String) : Parser Operand := do
    advance
    return .variable name (← steps (fun _ => .operand) [])
  rooted : Parser Operand := do
    return .path (← path fun _ => .operand)

/-! ### Assertions -/

def comma (form : Form) : Parser Unit := do
  match ← peek with
  | .comma => advance
  | .rightParen => fail (.tooFewArguments form)
  | _ => unexpected .comma

/-- The arguments that a form still takes, after those already found. -/
def arguments (form : Form) (around : List Literal → Construct) :
    Nat → List Literal → Parser (List Literal)
  | 0, found => return found
  | count + 1, found => do
    let (line, value) ← scope found do
      comma form
      return (← line, ← literal)
    let found := found ++ [value]
    match SyntaxFault.ofArgument? form value with
    | some fault => scope found (failOn line fault)
    | none => arguments form around count found
where
  scope {α : Type} (found : List Literal) (p : Parser α) : Parser α :=
    within (around found) (within (.predicate ⟨form, found⟩) p)

def quantifier : Parser (Option Quantifier) := do
  match ← peek with
  | .allWord => advance; return some .all
  | .anyWord => advance; return some .any
  | _ => return none

def formName : Parser String := do
  match ← peek with
  | .identifier name => advance; return name
  | _ => unexpected .form

/-- The form of a name on a line. A form that counts nodes has no quantifier. -/
def form (line : Nat) (name : String) (quantifier : Option Quantifier) : Parser Form :=
  match Form.ofName? name, quantifier with
  | none, _ => failOn line (.unknownForm name)
  | some form, none => return form
  | some form, some quantifier =>
    if form.countsNodes then failOn line (.quantifiedCount form quantifier) else return form

/-- The first operand of a form. A form that counts nodes takes no literal. -/
def leftOperand (form : Form) (declared : List String) (around : List String → Construct) :
    Parser Operand := do
  let line ← line
  let left ← within (around []) (operand declared)
  match left with
  | .literal value =>
    if form.countsNodes then within (around [left.text]) (failOn line (.literalOperand form value))
    else return left
  | _ => return left

/-- The second operand of a form that takes two. -/
def rightOperand (form : Form) (declared : List String) : Parser (Option Operand) := do
  if form.signature.operands = 2 then
    comma form
    return some (← operand declared)
  else return none

/-- The end of the operands and arguments of a form. -/
def closing (form : Form) : Parser Unit := do
  if (← peek) = .comma then fail (.tooManyArguments form)
  else expect .rightParen .rightParen

def assertion (declared : List String) : Parser Assertion := do
  let quantifier ← quantifier
  let line ← line
  let name ← within (.assertion { quantifier }) formName
  let around (items : List String) : Construct :=
    .assertion { quantifier, form := some name, items }
  let form ← within (around []) do
    let form ← form line name quantifier
    expect .leftParen .leftParen
    return form
  let left ← leftOperand form declared around
  let right ← within (around [left.text]) (rightOperand form declared)
  let operands := (left :: right.toList).map Operand.text
  let arguments ← arguments form (fun found => around (operands ++ found.map Literal.text))
    form.signature.arguments []
  within (around (operands ++ arguments.map Literal.text)) (closing form)
  return ⟨quantifier, ⟨form, arguments⟩, left, right⟩

/-! ### Trees of assertions -/

/-- Parts with a separator between them; one part stands for itself. -/
def chain (separator : Token) (join : List AssertionTree → AssertionTree)
    (part : Parser AssertionTree) : Parser AssertionTree := do
  let first ← part
  let rest ← afterEach separator part (← get).length
  return if rest.isEmpty then first else join (first :: rest)

/-- Disjunctions of conjunctions of parts. -/
def disjunction (part : Parser AssertionTree) : Parser AssertionTree :=
  chain .orWord .or (chain .andWord .and part)

def leaf (declared : List String) : Parser AssertionTree := do
  match ← peek with
  | .allWord | .anyWord | .identifier _ => return .leaf (← assertion declared)
  | _ => unexpected .assertion

/-- A leaf, a negation or a group, with room for `room` negations and groups one in the other. -/
def part (declared : List String) : Nat → Parser AssertionTree
  | 0 => do
    match ← peek with
    | .notWord | .leftParen => fail .tooNested
    | _ => leaf declared
  | room + 1 => do
    match ← peek with
    | .notWord => within .negation do
      advance
      return .not (← part declared room)
    | .leftParen => within .group do
      advance
      let inner ← disjunction (part declared room)
      expect .rightParen .rightParen
      return inner
    | _ => leaf declared

/-! ### Statements -/

/-- An assertion statement, up to its semicolon or the end of input. -/
def statement (declared : List String) : Parser AssertionTree := do
  let tree ← disjunction (part declared maxNesting)
  match ← peek with
  | .semicolon => advance
  | .endOfInput => pure ()
  | _ => unexpected .statementEnd
  return tree

def variableName : Parser String := do
  match ← peek with
  | .identifier name => advance; return name
  | _ => unexpected .variableName

def declaration : Parser Declaration := do
  advance
  let name ← within (.declaration {}) variableName
  let around (path : Path) : Construct := .declaration { name := some name, path }
  within (around []) (expect .equals .equalsSign)
  let path ← path around
  within (around path) (expect .semicolon .declarationEnd)
  return ⟨name, path⟩

/-- The tokens after the next semicolon, or from the next declaration or the end of input. -/
def recover : List Lexeme → List Lexeme
  | [] => []
  | lexeme :: ahead =>
    match lexeme.token with
    | .endOfInput | .letWord => lexeme :: ahead
    | .semicolon => ahead
    | _ => recover ahead

end Parser

/-! ### Sources -/

/-- What was read of a source. -/
structure Reading where
  declarations : List Declaration := []
  statements : List AssertionTree := []
  failures : List Failure := []

namespace Reading

def declared (r : Reading) : List String :=
  r.declarations.map (·.name)

/-- Adds a declaration that begins on a line. It is too late after an assertion. -/
def declare (r : Reading) (line : Nat) (d : Declaration) (rest : List Lexeme) : Reading :=
  let late : Failure :=
    ⟨.lateDeclaration, line, [.declaration ⟨some d.name, d.path, true⟩], rest⟩
  { r with
    declarations := r.declarations ++ [d]
    failures := r.failures ++ (if r.statements.isEmpty then [] else [late]) }

def assert (r : Reading) (tree : AssertionTree) : Reading :=
  { r with statements := r.statements ++ [tree] }

def fail (r : Reading) (failure : Failure) : Reading :=
  { r with failures := r.failures ++ [failure] }

/-- Reads at most `limit` statements, each of which takes a token at least. -/
def run : Nat → Reading → List Lexeme → Reading × List Lexeme
  | 0, r, ahead => (r, ahead)
  | limit + 1, r, ahead =>
    match nextToken ahead with
    | .endOfInput => (r, ahead)
    | .semicolon => run limit r ahead.tail
    | .letWord =>
      match Parser.declaration ahead with
      | .ok (d, rest) => run limit (r.declare (nextLine ahead) d rest) rest
      | .error failure => run limit (r.fail failure) (Parser.recover failure.rest)
    | _ =>
      match Parser.statement r.declared ahead with
      | .ok (tree, rest) => run limit (r.assert tree) rest
      | .error failure => run limit (r.fail failure) (Parser.recover failure.rest)

/-- All of the tokens. A source without errors has an assertion. -/
def ofLexemes (lexemes : List Lexeme) : Reading :=
  let (r, rest) := run lexemes.length {} lexemes
  if r.statements.isEmpty && r.failures.isEmpty then
    r.fail ⟨.noAssertion, nextLine rest, [], rest⟩
  else r

/-- Several statements hold together; one stands for itself. -/
def tree (r : Reading) : AssertionTree :=
  match r.statements with
  | [single] => single
  | statements => .and statements

end Reading

namespace SyntaxErrors

/-- Adds a failure, whose constructs are within the model. -/
def add (e : SyntaxErrors) (failure : Failure) : SyntaxErrors :=
  let (tree, node) := e.tree.pushTrail 0 failure.trail
  ⟨e.errors ++ [⟨failure.fault.message, failure.line, node⟩], tree⟩

/-- The errors of failures, in a tree whose first node is the model. -/
def ofFailures (failures : List Failure) : SyntaxErrors :=
  failures.foldl add ⟨[], SyntaxTree.push {} none .model⟩

end SyntaxErrors

namespace Specification

def ofLexemes (lexemes : List Lexeme) : Except SyntaxErrors Specification :=
  let r := Reading.ofLexemes lexemes
  if r.failures.isEmpty then .ok ⟨r.declarations, r.tree⟩
  else .error (.ofFailures r.failures)

def parse (source : String) : Except SyntaxErrors Specification :=
  ofLexemes (lex source)

end Specification

end Attest
