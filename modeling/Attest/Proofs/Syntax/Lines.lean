import Attest.Proofs.Syntax.Locality
/-!
# Lines of failures

The line of a failure lies between that of the first token read and that of the token where the
reading stopped, also where it was remembered before later tokens were read.
-/

namespace Attest

/-- The tokens come in the order of their lines, of which none is before `low`, and some token is a
boundary. -/
structure Lined (low : Nat) (ahead : List Lexeme) : Prop where
  fenced : Fenced ahead
  above : ∀ lexeme ∈ ahead, low ≤ lexeme.start.line
  ordered : ahead.Pairwise fun a b => a.start.line ≤ b.start.line

namespace Lined

variable {low : Nat} {ahead rest : List Lexeme}

theorem of_suffix (lined : Lined low ahead) (within : rest <:+ ahead) (fenced : Fenced rest) :
    Lined low rest where
  fenced := fenced
  above := fun lexeme member => lined.above lexeme (within.subset member)
  ordered := lined.ordered.sublist within.sublist

theorem of_cons {lexeme : Lexeme} (lined : Lined low (lexeme :: ahead))
    (inner : ¬ lexeme.token.IsBoundary) : Lined low ahead :=
  lined.of_suffix (List.suffix_cons _ _) (lined.fenced.of_cons inner)

theorem tail (lined : Lined low ahead) (inner : ¬ (nextToken ahead).IsBoundary) :
    Lined low ahead.tail :=
  lined.of_suffix (List.tail_suffix ahead) (lined.fenced.tail inner)

theorem le_nextLine (lined : Lined low ahead) : low ≤ nextLine ahead := by
  obtain ⟨lexeme, rest, rfl⟩ := lined.fenced.eq_cons
  exact lined.above lexeme List.mem_cons_self

theorem nextLine_le (lined : Lined low ahead) :
    ∀ lexeme ∈ ahead, nextLine ahead ≤ lexeme.start.line := by
  obtain ⟨first, rest, rfl⟩ := lined.fenced.eq_cons
  intro lexeme member
  rcases List.mem_cons.mp member with rfl | later
  · exact Nat.le_refl _
  · exact List.rel_of_pairwise_cons lined.ordered later

theorem weaken {less : Nat} (lined : Lined low ahead) (before : less ≤ low) : Lined less ahead where
  fenced := lined.fenced
  above := fun lexeme member => Nat.le_trans before (lined.above lexeme member)
  ordered := lined.ordered

/-- From here on no line is before that of the next token. -/
theorem here (lined : Lined low ahead) : Lined (nextLine ahead) ahead :=
  ⟨lined.fenced, lined.nextLine_le, lined.ordered⟩

end Lined

namespace Parser

variable {α β : Type} {p : Parser α} {low n : Nat} {ahead rest : List Lexeme}

/-- A failure is not before the line `low`, and not behind the tokens from where reading stopped. -/
def Located (low : Nat) (p : Parser α) (ahead : List Lexeme) : Prop :=
  ∀ failure, p ahead = .error failure →
    low ≤ failure.line ∧ ∀ lexeme ∈ failure.rest, failure.line ≤ lexeme.start.line

/-- Failures are located among the tokens that are read. -/
def Accurate (p : Parser α) : Prop :=
  ∀ low ahead, Lined low ahead → Located low p ahead

/-! ### Laws -/

theorem located_pure {x : α} : Located low (pure x : Parser α) ahead := by
  intro failure failed
  cases failed

theorem located_failOn {fault : SyntaxFault} (after : low ≤ n) (lined : Lined n ahead) :
    Located low (failOn n fault : Parser α) ahead := by
  intro failure failed
  cases failed
  exact ⟨after, lined.above⟩

theorem located_peek_bind {f : Token → Parser α} (next : Located low (f (nextToken ahead)) ahead) :
    Located low (peek >>= f) ahead := next

theorem located_line_bind {f : Nat → Parser α} (next : Located low (f (nextLine ahead)) ahead) :
    Located low (line >>= f) ahead := next

theorem located_advance : Located low advance ahead := by
  intro failure failed
  cases failed

theorem located_fail {fault : SyntaxFault} (lined : Lined low ahead) :
    Located low (fail fault : Parser α) ahead :=
  located_failOn lined.le_nextLine lined.here

theorem located_unexpected {expected : Expected} (lined : Lined low ahead) :
    Located low (unexpected expected : Parser α) ahead :=
  located_fail lined

theorem Located.within {construct : Construct} (located : Located low p ahead) :
    Located low (within construct p) ahead := by
  intro failure failed
  unfold Parser.within at failed
  cases inner : p ahead with
  | ok result =>
    rw [inner] at failed
    cases failed
  | error cause =>
    rw [inner] at failed
    cases failed
    exact located cause inner

theorem Located.bind {f : α → Parser β} (first : Located low p ahead)
    (next : ∀ x rest, p ahead = .ok (x, rest) → Located low (f x) rest) :
    Located low (p >>= f) ahead := by
  intro failure failed
  rw [bind_eq_match] at failed
  cases read : p ahead with
  | error cause =>
    rw [read] at failed
    cases failed
    exact first _ read
  | ok result =>
    rw [read] at failed
    exact next _ _ read failure failed

/-- A parser that does what another does further on. -/
theorem Located.skip {q : Parser α} (located : Located low q rest) (same : p ahead = q rest) :
    Located low p ahead := by
  intro failure failed
  rw [same] at failed
  exact located failure failed

theorem accurate_pure (x : α) : Accurate (pure x : Parser α) :=
  fun _ _ _ => located_pure

theorem Accurate.within {construct : Construct} (inner : Accurate p) :
    Accurate (within construct p) :=
  fun low ahead lined => (inner low ahead lined).within

theorem Local.lined {x : α} (here : Local p) (lined : Lined low ahead)
    (read : p ahead = .ok (x, rest)) : Lined low rest := by
  obtain ⟨fenced, inside⟩ := (here ahead lined.fenced).ok x rest read
  exact lined.of_suffix inside fenced

theorem Accurate.bind {f : α → Parser β} (first : Accurate p) (here : Local p)
    (next : ∀ x, Accurate (f x)) : Accurate (p >>= f) := by
  intro low ahead lined
  refine (first low ahead lined).bind fun x rest read => ?_
  exact next x low rest (here.lined lined read)

theorem located_advance_bind {f : Unit → Parser α} {t : Token} (lined : Lined low ahead)
    (here : nextToken ahead = t) (inner : ¬ t.IsBoundary) (next : Accurate (f ())) :
    Located low (advance >>= f) ahead :=
  next low ahead.tail (lined.tail (by rw [here]; exact inner))

theorem accurate_expect {t : Token} {expected : Expected} : Accurate (expect t expected) := by
  intro low ahead lined
  refine located_peek_bind ?_
  split
  · exact located_advance
  · exact located_unexpected lined

/-! ### Paths -/

theorem accurate_steps (around : Path → Construct) (found : Path) :
    Accurate (steps around found) := by
  intro low ahead lined
  fun_induction steps around found ahead with
  | case1 found start stop name start' stop' ahead ih =>
    exact ih ((lined.of_cons (by simp)).of_cons (by simp))
  | case2 found start stop start' stop' ahead ih =>
    exact ih ((lined.of_cons (by simp)).of_cons (by simp))
  | case3 found start stop ahead noName noStar =>
    let fails : Parser Path := within (around found) (unexpected .stepName)
    have stops : Located low fails ahead :=
      (located_unexpected (lined.of_cons (by simp))).within
    refine stops.skip ?_
    rw [steps] <;> assumption
  | case4 found start stop =>
    obtain ⟨_, _, _⟩ := (lined.fenced.of_cons (by simp)).eq_cons
    contradiction
  | case5 found start stop key ahead fault failed =>
    let fails : Parser Path := within (around found) (fail fault)
    have stops : Located low fails (key :: ahead) :=
      (located_fail (lined.of_cons (by simp))).within
    refine stops.skip ?_
    simp only [steps, failed, fails]
  | case6 found start stop key step read start' stop' ahead ih =>
    have later : Lined low ahead :=
      ((lined.of_cons (by simp)).of_cons (not_boundary_of_bracketStep read)).of_cons (by simp)
    refine (ih later).skip ?_
    simp only [steps, read]
  | case7 found start stop key step read ahead noBracket =>
    have later : Lined low ahead :=
      (lined.of_cons (by simp)).of_cons (not_boundary_of_bracketStep read)
    let fails : Parser Path :=
      within (around found) (within (.step step) (unexpected .rightBracket))
    have stops : Located low fails ahead := (located_unexpected later).within.within
    refine stops.skip ?_
    simp only [steps, read, fails]
  | case8 found ahead noDot noBracket =>
    have stops : Located low (pure found : Parser Path) ahead := located_pure
    refine stops.skip ?_
    rw [steps]
    · rfl
    · exact noDot
    · exact noBracket

theorem accurate_path (around : Path → Construct) : Accurate (path around) := by
  intro low ahead lined
  refine located_peek_bind ?_
  split
  · next here => exact located_advance_bind lined here (by simp) (accurate_steps around [])
  · next name here =>
    exact located_advance_bind lined here (by simp) (accurate_steps around [.field name])
  · next here => exact located_advance_bind lined here (by simp) (accurate_steps around [.wildcard])
  · exact accurate_steps around [] low ahead lined
  · exact (located_unexpected lined).within

/-! ### Operands -/

theorem accurate_literal : Accurate literal := by
  intro low ahead lined
  refine located_peek_bind ?_
  split
  · next read =>
    exact located_advance_bind lined rfl (not_boundary_of_literal? read) (accurate_pure _)
  · exact located_unexpected lined

theorem located_bound {name : String} (lined : Lined low ahead)
    (inner : ¬ (nextToken ahead).IsBoundary) : Located low (operand.bound name) ahead :=
  located_advance_bind lined rfl inner
    ((accurate_steps _ _).bind (local_steps _ _) fun _ => accurate_pure _)

theorem accurate_rooted : Accurate operand.rooted :=
  (accurate_path _).bind (local_path _) fun _ => accurate_pure _

theorem accurate_operand (declared : List String) : Accurate (operand declared) := by
  intro low ahead lined
  have rooted := accurate_rooted low ahead lined
  refine located_peek_bind ?_
  generalize token : nextToken ahead = t
  split
  · next read =>
    exact located_advance_bind lined token (not_boundary_of_literal? read) (accurate_pure _)
  · exact located_bound lined (by simp [token])
  · split
    · exact located_bound lined (by simp [token])
    · exact rooted
  · exact rooted
  · exact rooted
  · exact rooted
  · exact (located_unexpected lined).within

/-! ### Assertions -/

theorem accurate_comma (form : Form) : Accurate (comma form) := by
  intro low ahead lined
  refine located_peek_bind ?_
  split
  · exact located_advance
  · exact located_fail lined
  · exact located_unexpected lined

/-- The line that is remembered with an argument is that of a token passed. -/
theorem argument_line {form : Form} {value : Literal} (lined : Lined low ahead)
    (read : (do comma form; return (← line, ← literal) : Parser (Nat × Literal)) ahead =
      .ok ((n, value), rest)) : low ≤ n ∧ Lined n rest := by
  obtain ⟨_, mid, comma, read⟩ := bind_eq_ok.mp read
  have later : Lined low mid := (local_comma form).lined lined comma
  rw [line_bind] at read
  obtain ⟨_, last, literal, same⟩ := bind_eq_ok.mp read
  obtain ⟨same, rfl⟩ := pure_eq_ok.mp same
  cases same
  exact ⟨later.le_nextLine, local_literal.lined later.here literal⟩

theorem accurate_arguments (form : Form) (around : List Literal → Construct) (count : Nat)
    (found : List Literal) : Accurate (arguments form around count found) := by
  induction count generalizing found with
  | zero => exact accurate_pure found
  | succ count ih =>
    intro low ahead lined
    have argument : Accurate (do comma form; return (← line, ← literal)) := by
      refine (accurate_comma form).bind (local_comma form) fun _ low ahead lined => ?_
      refine located_line_bind ?_
      exact (accurate_literal.bind local_literal fun _ => accurate_pure _) low ahead lined
    refine (argument.within.within low ahead lined).bind fun result rest read => ?_
    obtain ⟨line, value⟩ := result
    obtain ⟨after, before⟩ := argument_line lined (within_eq_ok.mp (within_eq_ok.mp read))
    dsimp only
    split
    · exact (located_failOn after before).within.within
    · exact ih _ low rest (before.weaken after)

theorem accurate_quantifier : Accurate quantifier := by
  intro low ahead lined
  refine located_peek_bind ?_
  split
  · next here => exact located_advance_bind lined here (by simp) (accurate_pure _)
  · next here => exact located_advance_bind lined here (by simp) (accurate_pure _)
  · exact located_pure

theorem accurate_formName : Accurate formName := by
  intro low ahead lined
  refine located_peek_bind ?_
  split
  · next here => exact located_advance_bind lined here (by simp) (accurate_pure _)
  · exact located_unexpected lined

/-- A form fails on the line of its name, behind which the reading is. -/
theorem located_form (after : low ≤ n) (before : Lined n ahead) (name : String)
    (quantifier : Option Quantifier) : Located low (form n name quantifier) ahead := by
  unfold form
  split
  · exact located_failOn after before
  · exact located_pure
  · split
    · exact located_failOn after before
    · exact located_pure

theorem accurate_leftOperand (form : Form) (declared : List String)
    (around : List String → Construct) : Accurate (leftOperand form declared around) := by
  intro low ahead lined
  refine located_line_bind ?_
  have operand : Located low (within (around []) (operand declared)) ahead :=
    (accurate_operand declared low ahead lined).within
  refine operand.bind fun left rest read => ?_
  have before := (local_operand declared).lined lined.here (within_eq_ok.mp read)
  split
  · split
    · exact (located_failOn lined.le_nextLine before).within
    · exact located_pure
  · exact located_pure

theorem accurate_rightOperand (form : Form) (declared : List String) :
    Accurate (rightOperand form declared) := by
  unfold rightOperand
  split
  · refine (accurate_comma form).bind (local_comma form) fun _ => ?_
    exact (accurate_operand declared).bind (local_operand declared) fun _ => accurate_pure _
  · exact accurate_pure none

theorem accurate_closing (form : Form) : Accurate (closing form) := by
  intro low ahead lined
  refine located_peek_bind ?_
  split
  · exact located_fail lined
  · exact accurate_expect low ahead lined

theorem located_opening {name : String} {quantifier : Option Quantifier} (after : low ≤ n)
    (before : Lined n ahead) :
    Located low (do
      let form ← form n name quantifier
      expect .leftParen .leftParen
      return form) ahead := by
  refine (located_form after before name quantifier).bind fun form rest read => ?_
  have later := (local_form n name quantifier).lined before read
  have equals : Local (expect .leftParen .leftParen) := local_expect (by simp)
  exact (accurate_expect.bind equals fun _ => accurate_pure form) low rest (later.weaken after)

theorem accurate_assertion (declared : List String) : Accurate (assertion declared) := by
  refine accurate_quantifier.bind local_quantifier fun quantifier low ahead lined => ?_
  refine located_line_bind ?_
  refine (accurate_formName.within low ahead lined).bind fun name rest read => ?_
  have before := local_formName.lined lined.here (within_eq_ok.mp read)
  refine (located_opening lined.le_nextLine before).within.bind fun form mid read => ?_
  have later := (local_opening _ name quantifier).lined before (within_eq_ok.mp read)
  have operand := local_leftOperand form declared
  refine ((accurate_leftOperand form declared _).bind (operand _) fun left => ?_) low mid
    (later.weaken lined.le_nextLine)
  have second := local_rightOperand form declared
  refine (accurate_rightOperand form declared).within.bind second.within fun right => ?_
  refine (accurate_arguments form _ _ []).bind (local_arguments form _ _ []) fun arguments => ?_
  exact (accurate_closing form).within.bind (local_closing form).within fun _ => accurate_pure _

/-! ### Trees -/

theorem accurate_afterEach {separator : Token} (inner : ¬ separator.IsBoundary) (each : Local p)
    (part : Accurate p) (limit : Nat) : Accurate (afterEach separator p limit) := by
  induction limit with
  | zero => exact accurate_pure []
  | succ limit ih =>
    intro low ahead lined
    refine located_peek_bind ?_
    split
    · next here =>
      refine located_advance_bind lined here inner (part.bind each fun _ => ?_)
      exact ih.bind (local_afterEach inner each limit) fun _ => accurate_pure _
    · exact located_pure

theorem accurate_chain {separator : Token} {join : List AssertionTree → AssertionTree}
    {part : Parser AssertionTree} (inner : ¬ separator.IsBoundary) (each : Local part)
    (accurate : Accurate part) : Accurate (chain separator join part) := by
  refine accurate.bind each fun first low ahead lined => ?_
  have later := accurate_afterEach inner each accurate ahead.length
  have rest := later.bind (local_afterEach inner each ahead.length) fun rest =>
    accurate_pure (if rest.isEmpty then first else join (first :: rest))
  exact rest low ahead lined

theorem accurate_disjunction {part : Parser AssertionTree} (each : Local part)
    (accurate : Accurate part) : Accurate (disjunction part) :=
  accurate_chain (by simp) (local_chain (by simp) each) (accurate_chain (by simp) each accurate)

theorem accurate_leaf (declared : List String) : Accurate (leaf declared) := by
  intro low ahead lined
  refine located_peek_bind ?_
  have assertion := ((accurate_assertion declared).bind (local_assertion declared) fun a =>
    accurate_pure (AssertionTree.leaf a)) low ahead lined
  split
  · exact assertion
  · exact assertion
  · exact assertion
  · exact located_unexpected lined

theorem accurate_part (declared : List String) (room : Nat) : Accurate (part declared room) := by
  induction room with
  | zero =>
    intro low ahead lined
    refine located_peek_bind ?_
    split
    · exact located_fail lined
    · exact located_fail lined
    · exact accurate_leaf declared low ahead lined
  | succ room ih =>
    intro low ahead lined
    have each := local_part declared room
    refine located_peek_bind ?_
    split
    · next here =>
      refine (located_advance_bind lined here (by simp) ?_).within
      exact ih.bind each fun _ => accurate_pure _
    · next here =>
      refine (located_advance_bind lined here (by simp) ?_).within
      refine (accurate_disjunction each ih).bind (local_disjunction each) fun _ => ?_
      exact accurate_expect.bind (local_expect (by simp)) fun _ => accurate_pure _
    · exact accurate_leaf declared low ahead lined

/-! ### Statements -/

theorem accurate_statement (declared : List String) : Accurate (statement declared) := by
  have each := local_part declared maxNesting
  refine (accurate_disjunction each (accurate_part declared maxNesting)).bind
    (local_disjunction each) fun tree low ahead lined => ?_
  refine located_peek_bind ?_
  split
  · exact located_advance.bind fun _ _ _ => located_pure
  · exact located_pure
  · exact (located_unexpected lined).bind fun _ _ _ => located_pure

theorem accurate_variableName : Accurate variableName := by
  intro low ahead lined
  refine located_peek_bind ?_
  split
  · next here => exact located_advance_bind lined here (by simp) (accurate_pure _)
  · exact located_unexpected lined

theorem accurate_afterLet : Accurate afterLet := by
  refine accurate_variableName.within.bind local_variableName.within fun name => ?_
  have equals : Local (expect .equals .equalsSign) := local_expect (by simp)
  refine accurate_expect.within.bind equals.within fun _ => ?_
  refine (accurate_path _).bind (local_path _) fun path low ahead lined => ?_
  exact (accurate_expect low ahead lined).within.bind fun _ _ _ => located_pure

end Parser

end Attest
