import Attest.Proofs.Syntax.Chains
import Attest.Proofs.Syntax.Forms
/-!
# Completeness of the parsers

What the rules derive, the parsers read, up to a token that may follow. A token may follow if it
cannot continue what was read.
-/

namespace Attest

open Rules

namespace Parser

variable {ahead rest : List Lexeme} {declared : List String} {ts : List Token}

/-! ### Paths -/

/-- The token continues no path. -/
def EndsPath (t : Token) : Prop :=
  t ≠ .dot ∧ t ≠ .leftBracket

theorem steps_nil {around : Path → Construct} {found : Path} (ends : EndsPath (nextToken ahead)) :
    steps around found ahead = .ok (found, ahead) := by
  unfold steps
  split
  · exact absurd rfl ends.1
  · exact absurd rfl ends.2
  · rfl

theorem steps_complete {around : Path → Construct} {found more : Path} (derived : Steps ts more)
    (spans : Spans ahead ts rest) (ends : EndsPath (nextToken rest)) :
    steps around found ahead = .ok (found ++ more, rest) := by
  induction derived generalizing ahead found with
  | nil =>
    obtain rfl := Spans.nil_iff.mp spans
    rw [steps_nil ends, List.append_nil]
  | @cons _ _ step more first _ ih =>
    obtain ⟨mid, here, later⟩ := Spans.append_iff.mp spans
    rw [List.append_cons, ← ih later]
    cases first with
    | field name =>
      obtain ⟨_, _, _, _, rfl, second⟩ := Spans.cons_iff.mp here
      obtain ⟨_, _, _, _, rfl, done⟩ := Spans.cons_iff.mp second
      obtain rfl := Spans.nil_iff.mp done
      rw [steps]
    | wildcard =>
      obtain ⟨_, _, _, _, rfl, second⟩ := Spans.cons_iff.mp here
      obtain ⟨_, _, _, _, rfl, done⟩ := Spans.cons_iff.mp second
      obtain rfl := Spans.nil_iff.mp done
      rw [steps]
    | key key =>
      obtain ⟨_, _, _, _, rfl, second⟩ := Spans.cons_iff.mp here
      obtain ⟨_, _, _, _, rfl, third⟩ := Spans.cons_iff.mp second
      obtain ⟨_, _, _, _, rfl, done⟩ := Spans.cons_iff.mp third
      obtain rfl := Spans.nil_iff.mp done
      rw [steps.eq_def]
      simp only [bracketStep_eq_ok.mpr key]

theorem path_complete {around : Path → Construct} {p : Path} (derived : PathFrom ts p)
    (spans : Spans ahead ts rest) (ends : EndsPath (nextToken rest)) :
    path around ahead = .ok (p, rest) := by
  cases derived with
  | root derived =>
    simp only [path, peek_bind, spans.nextToken, advance_bind]
    exact steps_complete derived spans.tail ends
  | head head derived =>
    cases head with
    | field name =>
      simp only [path, peek_bind, spans.nextToken, advance_bind]
      exact steps_complete derived spans.tail ends
    | wildcard =>
      simp only [path, peek_bind, spans.nextToken, advance_bind]
      exact steps_complete derived spans.tail ends
    | key key =>
      simp only [path, peek_bind, spans.nextToken]
      exact steps_complete (.cons (.key key) derived) spans ends

/-! ### Operands -/

theorem literal_complete {value : Literal} (spans : Spans ahead [value.token] rest) :
    literal ahead = .ok (value, rest) := by
  simp only [literal, peek_bind, spans.nextToken, literal?_eq_some.mpr rfl, advance_bind]
  rw [Spans.nil_iff.mp spans.tail]
  rfl

theorem bound_complete {name : String} {path : Path} (derived : Steps ts path)
    (spans : Spans ahead.tail ts rest) (ends : EndsPath (nextToken rest)) :
    operand.bound name ahead = .ok (.variable name path, rest) := by
  rw [operand.bound, advance_bind]
  exact bind_eq_ok.mpr ⟨path, rest, steps_complete derived spans ends, rfl⟩

theorem rooted_complete {path : Path} (derived : PathFrom ts path) (spans : Spans ahead ts rest)
    (ends : EndsPath (nextToken rest)) : operand.rooted ahead = .ok (.path path, rest) :=
  bind_eq_ok.mpr ⟨path, rest, path_complete derived spans ends, rfl⟩

theorem operand_complete : Complete (operand declared) (OneOperand declared) EndsPath := by
  intro ahead ts rest x spans derived ends
  simp only [operand, peek_bind]
  cases derived with
  | literal value =>
    simp only [spans.nextToken, literal?_eq_some.mpr rfl, advance_bind]
    rw [Spans.nil_iff.mp spans.tail]
    rfl
  | «variable» name derived =>
    simp only [spans.nextToken, literal?]
    exact bound_complete derived spans.tail ends
  | declared known derived =>
    simp only [spans.nextToken, literal?]
    rw [if_pos (by simpa using known)]
    exact bound_complete derived spans.tail ends
  | path derived unknown =>
    have read := rooted_complete derived spans ends
    cases derived with
    | root derived => simp only [spans.nextToken, literal?, read]
    | head head derived =>
      cases head with
      | field name =>
        simp only [spans.nextToken, literal?]
        rw [if_neg, read]
        intro known
        exact unknown name (by simpa using known) rfl
      | wildcard => simp only [spans.nextToken, literal?, read]
      | key key => simp only [spans.nextToken, literal?, read]

/-! ### Assertions -/

theorem quantifier_complete {q : Option Quantifier} {name : String}
    (spans : Spans ahead (q.toList.map Quantifier.token) rest)
    (next : nextToken rest = .identifier name) : quantifier ahead = .ok (q, rest) := by
  simp only [quantifier, peek_bind]
  cases q with
  | none =>
    obtain rfl := Spans.nil_iff.mp spans
    rw [next]
    rfl
  | some q =>
    rw [spans.nextToken, ← Spans.nil_iff.mp spans.tail]
    cases q <;> rfl

theorem endsPath_comma : EndsPath .comma := ⟨by simp, by simp⟩

theorem endsPath_of_arguments {values : List Literal}
    (spans : Spans ahead (argumentTokens values ++ [.rightParen]) rest) :
    EndsPath (nextToken ahead) := by
  cases values with
  | nil =>
    rw [spans.nextToken]
    exact ⟨by simp, by simp⟩
  | cons value values =>
    rw [spans.nextToken]
    exact endsPath_comma

theorem endsPath_of_second {right : Option Operand} (derived : Second declared ts right)
    (spans : Spans ahead ts rest) (ends : EndsPath (nextToken rest)) :
    EndsPath (nextToken ahead) := by
  cases derived with
  | none => rwa [Spans.nil_iff.mp spans]
  | some =>
    rw [spans.nextToken]
    exact endsPath_comma

theorem rightOperand_complete {form : Form} {right : Option Operand}
    (count : 1 + right.toList.length = form.signature.operands) (derived : Second declared ts right)
    (spans : Spans ahead ts rest) (ends : EndsPath (nextToken rest)) :
    rightOperand form declared ahead = .ok (right, rest) := by
  unfold rightOperand
  cases derived with
  | none =>
    obtain rfl := Spans.nil_iff.mp spans
    rw [if_neg (by rw [← count]; decide)]
    rfl
  | some derived =>
    rw [if_pos (show form.signature.operands = 2 from count.symm)]
    refine bind_eq_ok.mpr ⟨(), _, comma_eq_ok.mpr ⟨spans.nextToken, rfl⟩, ?_⟩
    exact bind_eq_ok.mpr ⟨_, _, operand_complete spans.tail derived ends, rfl⟩

theorem arguments_complete {form : Form} {around : List Literal → Construct}
    {found more : List Literal} (admitted : ∀ value ∈ more, form.Admits value)
    (spans : Spans ahead (argumentTokens more) rest) :
    arguments form around more.length found ahead = .ok (found ++ more, rest) := by
  induction more generalizing ahead found with
  | nil =>
    obtain rfl := Spans.nil_iff.mp spans
    rw [List.append_nil]
    rfl
  | cons value more ih =>
    obtain ⟨valueAdmitted, moreAdmitted⟩ := List.forall_mem_cons.mp admitted
    have tail : Spans ahead.tail ([value.token] ++ argumentTokens more) rest := spans.tail
    obtain ⟨mid, first, later⟩ := Spans.append_iff.mp tail
    refine bind_eq_ok.mpr ⟨(nextLine ahead.tail, value), mid, ?_, ?_⟩
    · simp only [arguments.scope, within_eq_ok]
      refine bind_eq_ok.mpr ⟨(), _, comma_eq_ok.mpr ⟨spans.nextToken, rfl⟩, ?_⟩
      rw [line_bind]
      exact bind_eq_ok.mpr ⟨value, mid, literal_complete first, rfl⟩
    · simp only [SyntaxFault.ofArgument?_eq_none.mpr valueAdmitted]
      rw [ih moreAdmitted later, List.append_assoc, List.singleton_append]

theorem assertion_complete {a : Assertion} (derived : Leaf declared ts a)
    (spans : Spans ahead ts rest) : assertion declared ahead = .ok (a, rest) := by
  obtain ⟨left, right, wellFormed⟩ := derived
  obtain ⟨beforeName, quantified, spans⟩ := Spans.append_iff.mp spans
  have named := spans.nextToken
  have opens := spans.tail.nextToken
  obtain ⟨beforeEnd, spans, closes⟩ := Spans.append_iff.mp spans.tail.tail
  obtain ⟨beforeArguments, spans, argumentSpans⟩ := Spans.append_iff.mp spans
  obtain ⟨beforeRight, leftSpans, rightSpans⟩ := Spans.append_iff.mp spans
  have endsRight : EndsPath (nextToken beforeArguments) :=
    endsPath_of_arguments (argumentSpans.append closes)
  have endsLeft : EndsPath (nextToken beforeRight) := endsPath_of_second right rightSpans endsRight
  refine bind_eq_ok.mpr ⟨_, _, quantifier_complete quantified named, ?_⟩
  rw [line_bind]
  refine bind_eq_ok.mpr ⟨_, _, within_eq_ok.mpr (formName_eq_ok.mpr ⟨named, rfl⟩), ?_⟩
  refine bind_eq_ok.mpr ⟨a.predicate.form, beforeName.tail.tail, ?_, ?_⟩
  · rw [within_eq_ok, bind_eq_ok]
    refine ⟨_, _, form_eq_ok.mpr ⟨rfl, wellFormed.unquantified, rfl⟩, ?_⟩
    exact bind_eq_ok.mpr ⟨(), _, expect_eq_ok.mpr ⟨opens, rfl⟩, rfl⟩
  refine bind_eq_ok.mpr ⟨a.left, beforeRight, ?_, ?_⟩
  · exact leftOperand_eq_ok.mpr ⟨operand_complete leftSpans left endsLeft, wellFormed.counted⟩
  refine bind_eq_ok.mpr ⟨a.right, beforeArguments, ?_, ?_⟩
  · exact within_eq_ok.mpr (rightOperand_complete wellFormed.operands right rightSpans endsRight)
  refine bind_eq_ok.mpr ⟨a.predicate.arguments, beforeEnd, ?_, ?_⟩
  · rw [← wellFormed.arguments]
    exact arguments_complete wellFormed.admitted argumentSpans
  refine bind_eq_ok.mpr ⟨(), rest, ?_, rfl⟩
  exact within_eq_ok.mpr (closing_eq_ok.mpr ⟨closes.nextToken, Spans.nil_iff.mp closes.tail⟩)

/-! ### Trees -/

theorem leaf_complete {a : Assertion} (derived : Leaf declared ts a) (spans : Spans ahead ts rest) :
    leaf declared ahead = .ok (.leaf a, rest) := by
  have read : (do return AssertionTree.leaf (← assertion declared) : Parser AssertionTree) ahead =
      .ok (.leaf a, rest) := bind_eq_ok.mpr ⟨a, rest, assertion_complete derived spans, rfl⟩
  simp only [leaf, peek_bind]
  rcases derived.nextToken spans with here | here | ⟨name, here⟩
  all_goals
    rw [here]
    exact read

/-- Negations and groups apart, a part is a leaf. -/
theorem part_leaf {a : Assertion} {room : Nat} (derived : Leaf declared ts a)
    (spans : Spans ahead ts rest) : part declared room ahead = .ok (.leaf a, rest) := by
  have read := leaf_complete derived spans
  have first := derived.nextToken spans
  cases room with
  | zero => rcases first with here | here | ⟨name, here⟩ <;> simpa only [part, peek_bind, here]
  | succ room => rcases first with here | here | ⟨name, here⟩ <;> simpa only [part, peek_bind, here]

/-- The token continues no disjunction. -/
def EndsDisjunction (t : Token) : Prop :=
  t ≠ .orWord ∧ t ≠ .andWord

theorem disjunction_complete {part : Parser AssertionTree} {room : Nat}
    (complete : Complete part (Part declared room) fun _ => True) :
    Complete (disjunction part) (Disjunction declared room) EndsDisjunction := by
  rintro ahead ts rest _ spans ⟨trees, derived, rfl⟩ ⟨noOr, noAnd⟩
  have conjunctions :
      Complete (chain .andWord .and part) (Chain .andWord .and (Part declared room)) _ :=
    chain_complete complete trivial
  have disjunctions : Complete (disjunction part) (Chain .orWord .or _) _ :=
    chain_complete conjunctions ⟨by simp, trivial⟩
  exact disjunctions spans ⟨trees, derived.separated, rfl⟩ ⟨noOr, noAnd, trivial⟩

theorem part_complete (room : Nat) :
    Complete (part declared room) (Part declared room) fun _ => True := by
  induction room with
  | zero =>
    intro ahead ts rest tree spans derived _
    cases derived with
    | leaf derived => exact part_leaf derived spans
  | succ room ih =>
    intro ahead ts rest tree spans derived _
    cases derived with
    | leaf derived => exact part_leaf derived spans
    | not derived =>
      simp only [part, peek_bind, spans.nextToken, within_eq_ok, advance_bind]
      exact bind_eq_ok.mpr ⟨_, rest, ih spans.tail derived trivial, rfl⟩
    | group derived =>
      obtain ⟨mid, inner, closes⟩ := Spans.append_iff.mp spans.tail
      simp only [part, peek_bind, spans.nextToken, within_eq_ok, advance_bind]
      have ends : EndsDisjunction (nextToken mid) := by
        rw [closes.nextToken]
        exact ⟨by simp, by simp⟩
      refine bind_eq_ok.mpr ⟨_, mid, disjunction_complete ih inner ⟨_, derived, rfl⟩ ends, ?_⟩
      refine bind_eq_ok.mpr ⟨(), rest, expect_eq_ok.mpr ⟨closes.nextToken, ?_⟩, rfl⟩
      exact Spans.nil_iff.mp closes.tail

/-! ### Statements -/

theorem statement_complete {tree : AssertionTree}
    (derived : Disjunction declared maxNesting ts tree)
    (spans : Spans ahead (ts ++ [.semicolon]) rest) :
    statement declared ahead = .ok (tree, rest) := by
  obtain ⟨mid, inner, ends⟩ := Spans.append_iff.mp spans
  have next : EndsDisjunction (nextToken mid) := by
    rw [ends.nextToken]
    exact ⟨by simp, by simp⟩
  have read := disjunction_complete (part_complete maxNesting) inner derived next
  refine bind_eq_ok.mpr ⟨tree, mid, read, ?_⟩
  rw [peek_bind, ends.nextToken]
  exact bind_eq_ok.mpr ⟨(), rest, advance_eq_ok.mpr (Spans.nil_iff.mp ends.tail), rfl⟩

/-- The last statement needs no semicolon. -/
theorem statement_complete_last {tree : AssertionTree}
    (derived : Disjunction declared maxNesting ts tree) (spans : Spans ahead ts rest)
    (last : nextToken rest = .endOfInput) : statement declared ahead = .ok (tree, rest) := by
  have next : EndsDisjunction (nextToken rest) := by
    rw [last]
    exact ⟨by simp, by simp⟩
  have read := disjunction_complete (part_complete maxNesting) spans derived next
  refine bind_eq_ok.mpr ⟨tree, rest, read, ?_⟩
  rw [peek_bind, last]
  rfl

theorem declaration_complete {name : String} {steps : Path} (derived : PathFrom ts steps)
    (spans : Spans ahead (.letWord :: .identifier name :: .equals :: (ts ++ [.semicolon])) rest) :
    declaration ahead = .ok (⟨name, steps⟩, rest) := by
  have named := spans.tail.nextToken
  have equals := spans.tail.tail.nextToken
  obtain ⟨mid, inner, ends⟩ := Spans.append_iff.mp spans.tail.tail.tail
  have endsPath : EndsPath (nextToken mid) := by
    rw [ends.nextToken]
    exact ⟨by simp, by simp⟩
  rw [declaration, advance_bind]
  refine bind_eq_ok.mpr ⟨name, _, within_eq_ok.mpr (variableName_eq_ok.mpr ⟨named, rfl⟩), ?_⟩
  refine bind_eq_ok.mpr ⟨(), _, within_eq_ok.mpr (expect_eq_ok.mpr ⟨equals, rfl⟩), ?_⟩
  refine bind_eq_ok.mpr ⟨steps, mid, path_complete derived inner endsPath, ?_⟩
  refine bind_eq_ok.mpr ⟨(), rest, within_eq_ok.mpr (expect_eq_ok.mpr ⟨ends.nextToken, ?_⟩), rfl⟩
  exact Spans.nil_iff.mp ends.tail

end Parser

end Attest
