import Mathlib.Data.List.Forall2
import Attest.Proofs.Syntax.Soundness
/-!
# Layout

Of a token ahead a parser sees what it is and its line. The same tokens on other lines are read
alike: the values are the same, and failures have the same fault within the same constructs, on
lines that are related as those of the tokens are.
-/

namespace Attest

/-- How the lines of one layout are related to those of another. The end of input that stands behind
all tokens is on the first line. -/
structure LineRelation where
  Holds : Nat → Nat → Prop
  first : Holds 1 1

/-- Every line stays where it is. -/
def LineRelation.same : LineRelation := ⟨Eq, rfl⟩

/-- The same tokens in two layouts. -/
def Facing (R : LineRelation) : List Lexeme → List Lexeme → Prop :=
  List.Forall₂ fun a b => a.token = b.token ∧ R.Holds a.start.line b.start.line

namespace Facing

variable {R : LineRelation} {xs ys : List Lexeme}

theorem nextToken_eq (facing : Facing R xs ys) : nextToken ys = nextToken xs := by
  cases facing with
  | nil => rfl
  | cons here _ => exact here.1.symm

theorem nextLine (facing : Facing R xs ys) : R.Holds (nextLine xs) (nextLine ys) := by
  cases facing with
  | nil => exact R.first
  | cons here _ => exact here.2

theorem tail (facing : Facing R xs ys) : Facing R xs.tail ys.tail := by
  cases facing with
  | nil => exact .nil
  | cons _ later => exact later

theorem eq_cons {token : Token} {start stop : Position}
    (facing : Facing R (⟨token, start, stop⟩ :: xs) ys) :
    ∃ start' stop' rest, ys = ⟨token, start', stop'⟩ :: rest ∧ Facing R xs rest := by
  cases facing with
  | @cons _ other _ rest here later =>
    obtain ⟨token', start', stop'⟩ := other
    obtain rfl : token = token' := here.1
    exact ⟨start', stop', rest, rfl, later⟩

end Facing

theorem Facing.refl (xs : List Lexeme) : Facing .same xs xs :=
  List.forall₂_same.mpr fun _ _ => ⟨rfl, rfl⟩

/-- The same fault within the same constructs, in two layouts. -/
structure Failure.Alike (R : LineRelation) (f g : Failure) : Prop where
  fault : f.fault = g.fault
  line : R.Holds f.line g.line
  trail : f.trail = g.trail
  rest : Facing R f.rest g.rest

namespace Parser

variable {R : LineRelation} {α β γ δ : Type} {V : α → β → Prop} {W : γ → δ → Prop}
  {p : Parser α} {q : Parser β}

/-- What two parsers give in two layouts: values that are related, or failures that are. -/
inductive Results (R : LineRelation) (V : α → β → Prop) :
    Except Failure (α × List Lexeme) → Except Failure (β × List Lexeme) → Prop
  | ok {x : α} {y : β} {xs ys : List Lexeme} (values : V x y) (rest : Facing R xs ys) :
      Results R V (.ok (x, xs)) (.ok (y, ys))
  | error {f g : Failure} (failures : f.Alike R g) : Results R V (.error f) (.error g)

/-- In two layouts one parser does as the other. -/
def Follows (R : LineRelation) (V : α → β → Prop) (p : Parser α) (q : Parser β) : Prop :=
  ∀ xs ys, Facing R xs ys → Results R V (p xs) (q ys)

/-- The parser reads the same in two layouts. -/
def Uniform (R : LineRelation) (p : Parser α) : Prop :=
  Follows R Eq p p

/-! ### Laws -/

theorem follows_pure {x : α} {y : β} (values : V x y) :
    Follows R V (pure x : Parser α) (pure y : Parser β) :=
  fun _ _ facing => .ok values facing

theorem uniform_pure (x : α) : Uniform R (pure x : Parser α) :=
  follows_pure rfl

theorem Follows.bind {f : α → Parser γ} {g : β → Parser δ} (first : Follows R V p q)
    (next : ∀ x y, V x y → Follows R W (f x) (g y)) : Follows R W (p >>= f) (q >>= g) := by
  intro xs ys facing
  have results := first xs ys facing
  simp only [Bind.bind, StateT.bind, Except.bind]
  generalize p xs = left at results
  generalize q ys = right at results
  cases results with
  | ok values rest => exact next _ _ values _ _ rest
  | error failures => exact .error failures

theorem Uniform.bind {f : α → Parser γ} (first : Uniform R p) (next : ∀ x, Uniform R (f x)) :
    Uniform R (p >>= f) :=
  Follows.bind first fun x _ same => same ▸ next x

theorem uniform_peek_bind {f : Token → Parser α} (next : ∀ t, Uniform R (f t)) :
    Uniform R (peek >>= f) := by
  intro xs ys facing
  rw [peek_bind, peek_bind, facing.nextToken_eq]
  exact next _ xs ys facing

theorem follows_line_bind {f : Nat → Parser α} {g : Nat → Parser β}
    (next : ∀ m n, R.Holds m n → Follows R V (f m) (g n)) :
    Follows R V (line >>= f) (line >>= g) :=
  fun xs ys facing => next _ _ facing.nextLine xs ys facing

theorem uniform_advance : Uniform R advance :=
  fun _ _ facing => .ok rfl facing.tail

theorem follows_failOn {m n : Nat} {fault : SyntaxFault} (lines : R.Holds m n) :
    Follows R V (failOn m fault : Parser α) (failOn n fault : Parser β) :=
  fun _ _ facing => .error ⟨rfl, lines, rfl, facing⟩

theorem uniform_fail {fault : SyntaxFault} : Uniform R (fail fault : Parser α) :=
  follows_line_bind fun _ _ => follows_failOn

theorem uniform_unexpected {expected : Expected} : Uniform R (unexpected expected : Parser α) :=
  uniform_peek_bind fun _ => uniform_fail

theorem uniform_expect {t : Token} {expected : Expected} : Uniform R (expect t expected) := by
  refine uniform_peek_bind fun found => ?_
  split
  · exact uniform_advance
  · exact uniform_unexpected

theorem Follows.within {construct : Construct} (inner : Follows R V p q) :
    Follows R V (within construct p) (within construct q) := by
  intro xs ys facing
  have results := inner xs ys facing
  unfold Parser.within
  generalize p xs = left at results
  generalize q ys = right at results
  cases results with
  | ok values rest => exact .ok values rest
  | error failures =>
    exact .error ⟨failures.fault, failures.line, by rw [failures.trail], failures.rest⟩

theorem Uniform.within {construct : Construct} (inner : Uniform R p) :
    Uniform R (within construct p) :=
  Follows.within inner

/-! ### Paths -/

theorem uniform_steps (around : Path → Construct) (found : Path) :
    Uniform R (steps around found) := by
  intro xs ys facing
  fun_induction steps around found xs generalizing ys with
  | case1 found start stop name start' stop' ahead ih =>
    obtain ⟨_, _, _, rfl, second⟩ := facing.eq_cons
    obtain ⟨_, _, rest, rfl, later⟩ := second.eq_cons
    exact ih rest later
  | case2 found start stop start' stop' ahead ih =>
    obtain ⟨_, _, _, rfl, second⟩ := facing.eq_cons
    obtain ⟨_, _, rest, rfl, later⟩ := second.eq_cons
    exact ih rest later
  | case3 found start stop ahead noName noStar =>
    obtain ⟨_, _, rest, rfl, later⟩ := facing.eq_cons
    have fails : Uniform R (Parser.within (around found) (unexpected .stepName) : Parser Path) :=
      uniform_unexpected.within
    have results := fails ahead rest later
    cases ahead with
    | nil =>
      cases later
      exact results
    | cons lexeme ahead =>
      obtain ⟨token, start', stop'⟩ := lexeme
      obtain ⟨_, _, _, rfl, _⟩ := later.eq_cons
      cases token with
      | identifier name => exact absurd rfl (noName name start' stop' ahead)
      | star => exact absurd rfl (noStar start' stop' ahead)
      | _ => exact results
  | case4 found start stop =>
    obtain ⟨_, _, _, rfl, later⟩ := facing.eq_cons
    cases later
    have fails : Uniform R (Parser.within (around found) (unexpected .stepKey) : Parser Path) :=
      uniform_unexpected.within
    exact fails [] [] .nil
  | case5 found start stop key ahead fault failed =>
    obtain ⟨_, _, _, rfl, second⟩ := facing.eq_cons
    obtain ⟨token, start', stop'⟩ := key
    have fails : Uniform R (Parser.within (around found) (fail fault) : Parser Path) :=
      uniform_fail.within
    have results := fails _ _ second
    obtain ⟨_, _, rest, rfl, _⟩ := second.eq_cons
    simp only [steps, failed]
    exact results
  | case6 found start stop key step read start' stop' ahead ih =>
    obtain ⟨token, start'', stop''⟩ := key
    obtain ⟨_, _, _, rfl, second⟩ := facing.eq_cons
    obtain ⟨_, _, _, rfl, third⟩ := second.eq_cons
    obtain ⟨_, _, rest, rfl, later⟩ := third.eq_cons
    simp only [steps, read]
    exact ih rest later
  | case7 found start stop key step read ahead noBracket =>
    obtain ⟨token, start', stop'⟩ := key
    obtain ⟨_, _, _, rfl, second⟩ := facing.eq_cons
    obtain ⟨_, _, rest, rfl, later⟩ := second.eq_cons
    have fails : Uniform R (Parser.within (around found)
        (Parser.within (.step step) (unexpected .rightBracket)) : Parser Path) :=
      uniform_unexpected.within.within
    have results := fails ahead rest later
    simp only [steps, read]
    cases ahead with
    | nil =>
      cases later
      exact results
    | cons lexeme ahead =>
      obtain ⟨token, start', stop'⟩ := lexeme
      obtain ⟨_, _, _, rfl, _⟩ := later.eq_cons
      cases token with
      | rightBracket => exact absurd rfl (noBracket start' stop' ahead)
      | _ => exact results
  | case8 found ahead noDot noBracket =>
    have results : Results R Eq (.ok (found, ahead)) (.ok (found, ys)) := .ok rfl facing
    cases ahead with
    | nil =>
      cases facing
      exact results
    | cons lexeme ahead =>
      obtain ⟨token, start, stop⟩ := lexeme
      obtain ⟨_, _, _, rfl, _⟩ := facing.eq_cons
      cases token with
      | dot => exact absurd rfl (noDot start stop ahead)
      | leftBracket => exact absurd rfl (noBracket start stop ahead)
      | _ => exact results

theorem uniform_path (around : Path → Construct) : Uniform R (path around) := by
  refine uniform_peek_bind fun t => ?_
  split
  · exact uniform_advance.bind fun _ => uniform_steps around []
  · next name => exact uniform_advance.bind fun _ => uniform_steps around [.field name]
  · exact uniform_advance.bind fun _ => uniform_steps around [.wildcard]
  · exact uniform_steps around []
  · exact uniform_unexpected.within

/-! ### Operands -/

theorem uniform_literal : Uniform R literal := by
  refine uniform_peek_bind fun t => ?_
  split
  · exact uniform_advance.bind fun _ => uniform_pure _
  · exact uniform_unexpected

theorem uniform_bound (name : String) : Uniform R (operand.bound name) :=
  uniform_advance.bind fun _ => (uniform_steps _ _).bind fun _ => uniform_pure _

theorem uniform_rooted : Uniform R operand.rooted :=
  (uniform_path _).bind fun _ => uniform_pure _

theorem uniform_operand (declared : List String) : Uniform R (operand declared) := by
  refine uniform_peek_bind fun t => ?_
  split
  · exact uniform_advance.bind fun _ => uniform_pure _
  · exact uniform_bound _
  · split
    · exact uniform_bound _
    · exact uniform_rooted
  · exact uniform_rooted
  · exact uniform_rooted
  · exact uniform_rooted
  · exact uniform_unexpected.within

/-! ### Assertions -/

theorem uniform_comma (form : Form) : Uniform R (comma form) := by
  refine uniform_peek_bind fun t => ?_
  split
  · exact uniform_advance
  · exact uniform_fail
  · exact uniform_unexpected

theorem uniform_arguments (form : Form) (around : List Literal → Construct) (count : Nat)
    (found : List Literal) : Uniform R (arguments form around count found) := by
  induction count generalizing found with
  | zero => exact uniform_pure found
  | succ count ih =>
    -- An argument is read together with its line, on which it may turn out to be wrong.
    let Same : Nat × Literal → Nat × Literal → Prop := fun a b => R.Holds a.1 b.1 ∧ a.2 = b.2
    let argument : Parser (Nat × Literal) := do
      comma form
      return (← line, ← literal)
    have read : Follows R Same argument argument := by
      refine Follows.bind (uniform_comma form) fun _ _ _ => ?_
      refine follows_line_bind fun m n lines => ?_
      refine Follows.bind uniform_literal fun x y same => ?_
      exact follows_pure ⟨lines, same⟩
    refine Follows.bind read.within.within fun a b same => ?_
    obtain ⟨m, value⟩ := a
    obtain ⟨n, value'⟩ := b
    obtain ⟨lines, rfl : value = value'⟩ := same
    dsimp only
    split
    · exact (follows_failOn lines).within.within
    · exact ih _

theorem uniform_quantifier : Uniform R quantifier := by
  refine uniform_peek_bind fun t => ?_
  split
  · exact uniform_advance.bind fun _ => uniform_pure _
  · exact uniform_advance.bind fun _ => uniform_pure _
  · exact uniform_pure _

theorem uniform_formName : Uniform R formName := by
  refine uniform_peek_bind fun t => ?_
  split
  · exact uniform_advance.bind fun _ => uniform_pure _
  · exact uniform_unexpected

theorem follows_form {m n : Nat} (lines : R.Holds m n) (name : String)
    (quantifier : Option Quantifier) :
    Follows R Eq (form m name quantifier) (form n name quantifier) := by
  unfold form
  split
  · exact follows_failOn lines
  · exact uniform_pure _
  · split
    · exact follows_failOn lines
    · exact uniform_pure _

theorem uniform_leftOperand (form : Form) (declared : List String)
    (around : List String → Construct) : Uniform R (leftOperand form declared around) := by
  refine follows_line_bind fun m n lines => ?_
  have operand : Uniform R (Parser.within (around []) (operand declared)) :=
    (uniform_operand declared).within
  refine Follows.bind operand fun left left' same => ?_
  subst same
  split
  · split
    · exact (follows_failOn lines).within
    · exact uniform_pure _
  · exact uniform_pure _

theorem uniform_rightOperand (form : Form) (declared : List String) :
    Uniform R (rightOperand form declared) := by
  unfold rightOperand
  split
  · exact (uniform_comma form).bind fun _ =>
      (uniform_operand declared).bind fun _ => uniform_pure _
  · exact uniform_pure none

theorem uniform_closing (form : Form) : Uniform R (closing form) := by
  refine uniform_peek_bind fun t => ?_
  split
  · exact uniform_fail
  · exact uniform_expect

theorem uniform_assertion (declared : List String) : Uniform R (assertion declared) := by
  refine uniform_quantifier.bind fun quantifier => follows_line_bind fun m n lines => ?_
  refine Follows.bind uniform_formName.within fun name name' same => ?_
  subst same
  have paren : Uniform R (expect .leftParen .leftParen) := uniform_expect
  have opening := Follows.bind (follows_form lines name quantifier) fun form form' same => by
    subst same
    exact paren.bind fun _ => uniform_pure form
  refine Follows.bind opening.within fun form form' same => ?_
  subst same
  refine (uniform_leftOperand form declared _).bind fun left => ?_
  refine (uniform_rightOperand form declared).within.bind fun right => ?_
  refine (uniform_arguments form _ _ []).bind fun arguments => ?_
  exact (uniform_closing form).within.bind fun _ => uniform_pure _

/-! ### Trees -/

theorem uniform_afterEach {separator : Token} (part : Uniform R p) (limit : Nat) :
    Uniform R (afterEach separator p limit) := by
  induction limit with
  | zero => exact uniform_pure []
  | succ limit ih =>
    refine uniform_peek_bind fun t => ?_
    split
    · exact uniform_advance.bind fun _ =>
        part.bind fun _ => ih.bind fun _ => uniform_pure _
    · exact uniform_pure []

theorem uniform_chain {separator : Token} {join : List AssertionTree → AssertionTree}
    {part : Parser AssertionTree} (each : Uniform R part) :
    Uniform R (chain separator join part) := by
  refine each.bind fun first xs ys facing => ?_
  rw [get_bind, get_bind, ← facing.length_eq]
  exact ((uniform_afterEach each xs.length).bind fun _ => uniform_pure _) xs ys facing

theorem uniform_disjunction {part : Parser AssertionTree} (each : Uniform R part) :
    Uniform R (disjunction part) :=
  uniform_chain (uniform_chain each)

theorem uniform_leaf (declared : List String) : Uniform R (leaf declared) := by
  have assertion : Uniform R (assertion declared >>= fun a => pure (AssertionTree.leaf a)) :=
    (uniform_assertion declared).bind fun _ => uniform_pure _
  refine uniform_peek_bind fun t => ?_
  split
  · exact assertion
  · exact assertion
  · exact assertion
  · exact uniform_unexpected

theorem uniform_part (declared : List String) (room : Nat) : Uniform R (part declared room) := by
  induction room with
  | zero =>
    refine uniform_peek_bind fun t => ?_
    split
    · exact uniform_fail
    · exact uniform_fail
    · exact uniform_leaf declared
  | succ room ih =>
    refine uniform_peek_bind fun t => ?_
    split
    · exact (uniform_advance.bind fun _ => ih.bind fun _ => uniform_pure _).within
    · refine (uniform_advance.bind fun _ => ?_).within
      exact (uniform_disjunction ih).bind fun _ => uniform_expect.bind fun _ => uniform_pure _
    · exact uniform_leaf declared

/-! ### Statements -/

theorem uniform_statement (declared : List String) : Uniform R (statement declared) := by
  refine (uniform_disjunction (uniform_part declared maxNesting)).bind fun tree => ?_
  refine uniform_peek_bind fun t => ?_
  split
  · exact uniform_advance.bind fun _ => uniform_pure tree
  · exact uniform_pure tree
  · exact uniform_unexpected.bind fun _ => uniform_pure tree

theorem uniform_variableName : Uniform R variableName := by
  refine uniform_peek_bind fun t => ?_
  split
  · exact uniform_advance.bind fun _ => uniform_pure _
  · exact uniform_unexpected

theorem uniform_declaration : Uniform R declaration := by
  refine uniform_advance.bind fun _ => uniform_variableName.within.bind fun name => ?_
  refine uniform_expect.within.bind fun _ => (uniform_path _).bind fun path => ?_
  exact uniform_expect.within.bind fun _ => uniform_pure _

theorem facing_recover {xs ys : List Lexeme} (facing : Facing R xs ys) :
    Facing R (recover xs) (recover ys) := by
  induction facing with
  | nil => exact .nil
  | @cons lexeme other _ _ here later ih =>
    unfold recover
    rw [← here.1]
    split
    · exact .cons here later
    · exact .cons here later
    · exact later
    · exact ih

end Parser

/-! ### Sources -/

namespace Reading

variable {R : LineRelation} {r r' : Reading} {xs ys : List Lexeme}

/-- The same was read in two layouts. -/
structure Alike (R : LineRelation) (r r' : Reading) : Prop where
  declarations : r.declarations = r'.declarations
  statements : r.statements = r'.statements
  failures : List.Forall₂ (Failure.Alike R) r.failures r'.failures

namespace Alike

theorem fail (alike : Alike R r r') {f g : Failure} (failures : f.Alike R g) :
    Alike R (r.fail f) (r'.fail g) :=
  ⟨alike.declarations, alike.statements, List.rel_append alike.failures (.cons failures .nil)⟩

theorem assert (alike : Alike R r r') (tree : AssertionTree) :
    Alike R (r.assert tree) (r'.assert tree) :=
  ⟨alike.declarations, by simp only [Reading.assert, alike.statements], alike.failures⟩

theorem declare (alike : Alike R r r') {m n : Nat} (lines : R.Holds m n) (d : Declaration)
    (facing : Facing R xs ys) : Alike R (r.declare m d xs) (r'.declare n d ys) := by
  refine ⟨by simp only [Reading.declare, alike.declarations], alike.statements, ?_⟩
  unfold Reading.declare
  rw [alike.statements]
  refine List.rel_append alike.failures ?_
  split
  · exact .nil
  · exact .cons ⟨rfl, lines, rfl, facing⟩ .nil

theorem run (alike : Alike R r r') (limit : Nat) (facing : Facing R xs ys) :
    Alike R (Reading.run limit r xs).1 (Reading.run limit r' ys).1 ∧
      Facing R (Reading.run limit r xs).2 (Reading.run limit r' ys).2 := by
  induction limit generalizing r r' xs ys with
  | zero => exact ⟨alike, facing⟩
  | succ limit ih =>
    unfold Reading.run
    rw [facing.nextToken_eq]
    split
    · exact ⟨alike, facing⟩
    · exact ih alike facing.tail
    · have results := Parser.uniform_declaration xs ys facing
      generalize Parser.declaration xs = left at results
      generalize Parser.declaration ys = right at results
      cases results with
      | ok same rest =>
        subst same
        exact ih (alike.declare facing.nextLine _ rest) rest
      | error failures => exact ih (alike.fail failures) (Parser.facing_recover failures.rest)
    · have names : r.declared = r'.declared := by
        unfold Reading.declared
        rw [alike.declarations]
      have results := Parser.uniform_statement r.declared xs ys facing
      rw [← names]
      generalize Parser.statement r.declared xs = left at results
      generalize Parser.statement r.declared ys = right at results
      cases results with
      | ok same rest =>
        subst same
        exact ih (alike.assert _) rest
      | error failures => exact ih (alike.fail failures) (Parser.facing_recover failures.rest)

theorem ofLexemes (facing : Facing R xs ys) :
    Alike R (Reading.ofLexemes xs) (Reading.ofLexemes ys) := by
  have empty : Alike R {} {} := ⟨rfl, rfl, .nil⟩
  obtain ⟨alike, rest⟩ := empty.run xs.length facing
  unfold Reading.ofLexemes
  rw [← facing.length_eq]
  dsimp only
  have accepted : (Reading.run xs.length {} xs).1.failures.isEmpty =
      (Reading.run xs.length {} ys).1.failures.isEmpty := by
    rw [Bool.eq_iff_iff, List.isEmpty_iff_length_eq_zero, List.isEmpty_iff_length_eq_zero,
      alike.failures.length_eq]
  rw [alike.statements, accepted]
  split
  · exact alike.fail ⟨rfl, rest.nextLine, rfl, rest⟩
  · exact alike

end Alike

end Reading

end Attest
