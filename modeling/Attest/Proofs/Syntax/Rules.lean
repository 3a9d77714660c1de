import Attest.Syntax.Fault
/-!
# Rules of the language

The language as rules over tokens: which tokens stand for which path, operand, assertion and
specification. The rules look at no token ahead and keep no state but the declared names, and
nothing in them depends on the parsers.
-/

namespace Attest

/-! ### Literals and forms -/

/-- The token that a literal is written as. -/
def Literal.token : Literal → Token
  | .null => .null
  | .boolean value => .boolean value
  | .integer value => .integer value
  | .float value => .float value
  | .string value => .string value

/-- What a form asks of each of its literal arguments. -/
def Form.Admits : Form → Literal → Prop
  | .size, value => ∃ n : Nat, value = .integer n
  | .matches, value => ∃ pattern expr, value = .string pattern ∧ Pattern.compile pattern = .ok expr
  | .between, value => value ≠ .null ∧ ∀ b, value ≠ .boolean b
  | _, _ => True

/-- What an assertion must fulfil beyond the order of its tokens. -/
structure Assertion.WellFormed (a : Assertion) : Prop where
  operands : 1 + a.right.toList.length = a.predicate.form.signature.operands
  arguments : a.predicate.arguments.length = a.predicate.form.signature.arguments
  admitted : ∀ value ∈ a.predicate.arguments, a.predicate.form.Admits value
  unquantified : a.predicate.form.countsNodes → a.quantifier = none
  counted : a.predicate.form.countsNodes → ∀ value, a.left ≠ .literal value

def Quantifier.token : Quantifier → Token
  | .all => .allWord
  | .any => .anyWord

namespace Rules

/-! ### Paths -/

/-- `key := STRING | INTEGER | "*"`, where the integer is not negative. -/
inductive Key : Token → Step → Prop
  | field (name : String) : Key (.string name) (.field name)
  | index (position : Nat) : Key (.integer position) (.index position)
  | wildcard : Key .star .wildcard

/-- `step := "." IDENT | "." "*" | "[" key "]"` -/
inductive OneStep : List Token → Step → Prop
  | field (name : String) : OneStep [.dot, .identifier name] (.field name)
  | wildcard : OneStep [.dot, .star] .wildcard
  | key {token : Token} {step : Step} (key : Key token step) :
      OneStep [.leftBracket, token, .rightBracket] step

inductive Steps : List Token → Path → Prop
  | nil : Steps [] []
  | cons {ts us : List Token} {step : Step} {path : Path} (first : OneStep ts step)
      (rest : Steps us path) : Steps (ts ++ us) (step :: path)

/-- `head := IDENT | "*" | "[" key "]"` -/
inductive Head : List Token → Step → Prop
  | field (name : String) : Head [.identifier name] (.field name)
  | wildcard : Head [.star] .wildcard
  | key {token : Token} {step : Step} (key : Key token step) :
      Head [.leftBracket, token, .rightBracket] step

/-- `path := "$" step* | head step*` -/
inductive PathFrom : List Token → Path → Prop
  | root {ts : List Token} {path : Path} (steps : Steps ts path) : PathFrom (.dollar :: ts) path
  | head {ts us : List Token} {step : Step} {path : Path} (head : Head ts step)
      (rest : Steps us path) : PathFrom (ts ++ us) (step :: path)

/-! ### Assertions -/

/-- `operand := literal | VARIABLE step* | IDENT step* | path`, where the identifier is a declared
name, and a path does not begin with one. -/
inductive OneOperand (declared : List String) : List Token → Operand → Prop
  | literal (value : Literal) : OneOperand declared [value.token] (.literal value)
  | variable {ts : List Token} {path : Path} (name : String) (steps : Steps ts path) :
      OneOperand declared (.variable name :: ts) (.variable name path)
  | declared {ts : List Token} {path : Path} {name : String} (known : name ∈ declared)
      (steps : Steps ts path) : OneOperand declared (.identifier name :: ts) (.variable name path)
  | path {ts : List Token} {path : Path} (steps : PathFrom ts path)
      (unknown : ∀ name ∈ declared, ts.head? ≠ some (.identifier name)) :
      OneOperand declared ts (.path path)

/-- A second operand, after its comma. -/
inductive Second (declared : List String) : List Token → Option Operand → Prop
  | none : Second declared [] none
  | some {ts : List Token} {right : Operand} (operand : OneOperand declared ts right) :
      Second declared (.comma :: ts) (some right)

/-- Literal arguments, each after its comma. -/
def argumentTokens (values : List Literal) : List Token :=
  values.flatMap fun value => [.comma, value.token]

/-- `assertion := ("all" | "any")? FORM "(" operand ("," operand)? ("," literal)* ")"` -/
inductive Leaf (declared : List String) : List Token → Assertion → Prop
  | intro {ts us : List Token} {a : Assertion} (left : OneOperand declared ts a.left)
      (right : Second declared us a.right) (wellFormed : a.WellFormed) :
      Leaf declared
        (a.quantifier.toList.map Quantifier.token ++
          .identifier a.predicate.form.name :: .leftParen ::
            (ts ++ us ++ argumentTokens a.predicate.arguments ++ [.rightParen])) a

/-! ### Trees -/

/-- Several trees joined, or one that stands for itself. -/
def joined (join : List AssertionTree → AssertionTree) : List AssertionTree → AssertionTree
  | [tree] => tree
  | trees => join trees

theorem joined_of_length_ne_one {join : List AssertionTree → AssertionTree}
    {trees : List AssertionTree} (several : trees.length ≠ 1) : joined join trees = join trees := by
  match trees with
  | [] => rfl
  | [_] => exact absurd rfl several
  | _ :: _ :: _ => rfl

mutual

/-- `part := "not" part | "(" disjunction ")" | assertion`, with at most `room` negations and
groups one in the other. -/
inductive Part (declared : List String) : Nat → List Token → AssertionTree → Prop
  | leaf {room : Nat} {ts : List Token} {a : Assertion} (leaf : Leaf declared ts a) :
      Part declared room ts (.leaf a)
  | not {room : Nat} {ts : List Token} {tree : AssertionTree} (inner : Part declared room ts tree) :
      Part declared (room + 1) (.notWord :: ts) (.not tree)
  | group {room : Nat} {ts : List Token} {trees : List AssertionTree}
      (inner : Disjuncts declared room ts trees) :
      Part declared (room + 1) (.leftParen :: (ts ++ [.rightParen])) (joined .or trees)

/-- `conjunction := part ("and" part)*` -/
inductive Conjuncts (declared : List String) : Nat → List Token → List AssertionTree → Prop
  | last {room : Nat} {ts : List Token} {tree : AssertionTree} (part : Part declared room ts tree) :
      Conjuncts declared room ts [tree]
  | more {room : Nat} {ts us : List Token} {tree : AssertionTree} {trees : List AssertionTree}
      (part : Part declared room ts tree) (rest : Conjuncts declared room us trees) :
      Conjuncts declared room (ts ++ .andWord :: us) (tree :: trees)

/-- `disjunction := conjunction ("or" conjunction)*` -/
inductive Disjuncts (declared : List String) : Nat → List Token → List AssertionTree → Prop
  | last {room : Nat} {ts : List Token} {trees : List AssertionTree}
      (conjunction : Conjuncts declared room ts trees) :
      Disjuncts declared room ts [joined .and trees]
  | more {room : Nat} {ts us : List Token} {trees others : List AssertionTree}
      (conjunction : Conjuncts declared room ts trees) (rest : Disjuncts declared room us others) :
      Disjuncts declared room (ts ++ .orWord :: us) (joined .and trees :: others)

end

/-- A disjunction as one tree. -/
def Disjunction (declared : List String) (room : Nat) (ts : List Token) (tree : AssertionTree) :
    Prop :=
  ∃ trees, Disjuncts declared room ts trees ∧ tree = joined .or trees

/-! ### Sources -/

/-- `(declaration | ";")*`, where `declaration := "let" IDENT "=" path ";"` -/
inductive Declarations : List Token → List Declaration → Prop
  | nil : Declarations [] []
  | empty {ts : List Token} {ds : List Declaration} (rest : Declarations ts ds) :
      Declarations (.semicolon :: ts) ds
  | cons {ts us : List Token} {path : Path} {ds : List Declaration} (name : String)
      (steps : PathFrom ts path) (rest : Declarations us ds) :
      Declarations (.letWord :: .identifier name :: .equals :: (ts ++ .semicolon :: us))
        (⟨name, path⟩ :: ds)

/-- `(disjunction ";" | ";")* disjunction?` -/
inductive Statements (declared : List String) : List Token → List AssertionTree → Prop
  | nil : Statements declared [] []
  | empty {ts : List Token} {trees : List AssertionTree} (rest : Statements declared ts trees) :
      Statements declared (.semicolon :: ts) trees
  | last {ts : List Token} {tree : AssertionTree}
      (statement : Disjunction declared maxNesting ts tree) : Statements declared ts [tree]
  | cons {ts us : List Token} {tree : AssertionTree} {trees : List AssertionTree}
      (statement : Disjunction declared maxNesting ts tree) (rest : Statements declared us trees) :
      Statements declared (ts ++ .semicolon :: us) (tree :: trees)

/-- Declarations before assertions, of which there is one at least. The assertions see every
declared name and hold together. -/
inductive Source : List Token → Specification → Prop
  | intro {ts us : List Token} {ds : List Declaration} {trees : List AssertionTree}
      (declarations : Declarations ts ds) (statements : Statements (ds.map (·.name)) us trees)
      (nonempty : trees ≠ []) : Source (ts ++ us) ⟨ds, joined .and trees⟩

end Rules

end Attest
