import Attest.Proofs.Syntax.Chains
import Attest.Proofs.Syntax.Forms
/-!
# Soundness of the parsers

Where a parser succeeds, the rules derive its result from the tokens that it read.
-/

namespace Attest

open Rules

namespace Parser

variable {ahead rest : List Lexeme} {declared : List String}

/-! ### Paths -/

theorem steps_sound {around : Path → Construct} {found path : Path}
    (h : steps around found ahead = .ok (path, rest)) :
    ∃ ts more, Spans ahead ts rest ∧ path = found ++ more ∧ Steps ts more := by
  fun_induction steps around found ahead with
  | case1 found start stop name start' stop' ahead ih =>
    obtain ⟨ts, more, spans, rfl, derived⟩ := ih h
    exact ⟨_, _, .next rfl (by simp) (.next rfl (by simp) spans), by simp,
      .cons (.field name) derived⟩
  | case2 found start stop start' stop' ahead ih =>
    obtain ⟨ts, more, spans, rfl, derived⟩ := ih h
    exact ⟨_, _, .next rfl (by simp) (.next rfl (by simp) spans), by simp, .cons .wildcard derived⟩
  | case6 found start stop key step read start' stop' ahead ih =>
    obtain ⟨ts, more, spans, rfl, derived⟩ := ih h
    have inner := bracketStep_eq_ok.mp read
    have notEnd : key.token ≠ .endOfInput := by
      intro same
      rw [same] at inner
      cases inner
    exact ⟨_, _, .next rfl (by simp) (.next rfl notEnd (.next rfl (by simp) spans)), by simp,
      .cons (.key inner) derived⟩
  | case8 =>
    cases h
    exact ⟨[], [], .refl _, by simp, .nil⟩
  | _ => simp at h

/-- Steps are read as far as they go. -/
theorem steps_maximal {around : Path → Construct} {found path : Path}
    (h : steps around found ahead = .ok (path, rest)) :
    nextToken rest ≠ .dot ∧ nextToken rest ≠ .leftBracket := by
  fun_induction steps around found ahead with
  | case1 _ _ _ _ _ _ _ ih => exact ih h
  | case2 _ _ _ _ _ _ ih => exact ih h
  | case6 _ _ _ _ _ _ _ _ _ ih => exact ih h
  | case8 found ahead noDot noBracket =>
    cases h
    constructor
    · intro here
      obtain ⟨start, stop, mid, split⟩ := eq_cons_of_nextToken here (by simp)
      exact noDot start stop mid split
    · intro here
      obtain ⟨start, stop, mid, split⟩ := eq_cons_of_nextToken here (by simp)
      exact noBracket start stop mid split
  | _ => simp at h

theorem path_sound {around : Path → Construct} {p : Path} (h : path around ahead = .ok (p, rest)) :
    ∃ ts, Spans ahead ts rest ∧ PathFrom ts p := by
  simp only [path, peek_bind] at h
  generalize here : nextToken ahead = t at h
  split at h
  · obtain ⟨ts, more, spans, rfl, derived⟩ := steps_sound h
    exact ⟨_, .next here (by simp) spans, .root derived⟩
  · obtain ⟨ts, more, spans, rfl, derived⟩ := steps_sound h
    exact ⟨_, .next here (by simp) spans, .head (.field _) derived⟩
  · obtain ⟨ts, more, spans, rfl, derived⟩ := steps_sound h
    exact ⟨_, .next here (by simp) spans, .head .wildcard derived⟩
  · have ⟨_, noBracket⟩ := steps_maximal h
    obtain ⟨ts, more, spans, rfl, derived⟩ := steps_sound h
    -- The first of the steps is the head, since it stands between brackets.
    cases derived with
    | nil =>
      obtain rfl := Spans.nil_iff.mp spans
      exact absurd here noBracket
    | cons first derived =>
      cases first with
      | key key => exact ⟨_, spans, .head (.key key) derived⟩
      | _ => exact absurd (spans.nextToken.symm.trans here) (by simp)
  · simp at h

/-! ### Operands -/

theorem literal_sound {value : Literal} (h : literal ahead = .ok (value, rest)) :
    Spans ahead [value.token] rest := by
  simp only [literal, peek_bind] at h
  cases found : literal? (nextToken ahead) with
  | none => simp [found] at h
  | some other =>
    simp only [found, advance_bind, pure_eq_ok] at h
    obtain ⟨rfl, rfl⟩ := h
    exact .one (literal?_eq_some.mp found) (Literal.token_ne_endOfInput _)

theorem bound_sound {name : String} {x : Operand} (h : operand.bound name ahead = .ok (x, rest)) :
    ∃ ts path, Spans ahead.tail ts rest ∧ x = .variable name path ∧ Steps ts path := by
  simp only [operand.bound, advance_bind] at h
  obtain ⟨path, _, read, h⟩ := bind_eq_ok.mp h
  obtain ⟨rfl, rfl⟩ := pure_eq_ok.mp h
  obtain ⟨ts, path, spans, rfl, derived⟩ := steps_sound read
  exact ⟨ts, path, spans, rfl, derived⟩

theorem rooted_sound {x : Operand} (h : operand.rooted ahead = .ok (x, rest)) :
    ∃ ts path, Spans ahead ts rest ∧ x = .path path ∧ PathFrom ts path := by
  obtain ⟨path, _, read, h⟩ := bind_eq_ok.mp h
  obtain ⟨rfl, rfl⟩ := pure_eq_ok.mp h
  obtain ⟨ts, spans, derived⟩ := path_sound read
  exact ⟨ts, path, spans, rfl, derived⟩

theorem operand_sound {x : Operand} (h : operand declared ahead = .ok (x, rest)) :
    ∃ ts, Spans ahead ts rest ∧ OneOperand declared ts x := by
  simp only [operand, peek_bind] at h
  generalize here : nextToken ahead = t at h
  generalize found : literal? t = value? at h
  split at h
  · simp only [advance_bind, pure_eq_ok] at h
    obtain ⟨rfl, rfl⟩ := h
    obtain rfl := literal?_eq_some.mp found
    exact ⟨_, .one here (Literal.token_ne_endOfInput _), .literal _⟩
  · obtain ⟨ts, path, spans, rfl, derived⟩ := bound_sound h
    exact ⟨_, .next here (by simp) spans, .variable _ derived⟩
  · split at h
    · next known =>
      obtain ⟨ts, path, spans, rfl, derived⟩ := bound_sound h
      exact ⟨_, .next here (by simp) spans, .declared (by simpa using known) derived⟩
    · next unknown =>
      obtain ⟨ts, path, spans, rfl, derived⟩ := rooted_sound h
      refine ⟨_, spans, .path derived ?_⟩
      intro other known first
      cases here.symm.trans (spans.nextToken_of_head? first)
      exact unknown (by simpa using known)
  -- The other paths begin with no name.
  iterate 3
    obtain ⟨ts, path, spans, rfl, derived⟩ := rooted_sound h
    refine ⟨_, spans, .path derived ?_⟩
    intro other known first
    cases here.symm.trans (spans.nextToken_of_head? first)
  · simp at h

/-! ### Assertions -/

theorem quantifier_sound {q : Option Quantifier} (h : quantifier ahead = .ok (q, rest)) :
    Spans ahead (q.toList.map Quantifier.token) rest := by
  simp only [quantifier, peek_bind] at h
  generalize here : nextToken ahead = t at h
  split at h
  · simp only [advance_bind, pure_eq_ok] at h
    obtain ⟨rfl, rfl⟩ := h
    exact .one here (by simp [Quantifier.token])
  · simp only [advance_bind, pure_eq_ok] at h
    obtain ⟨rfl, rfl⟩ := h
    exact .one here (by simp [Quantifier.token])
  · obtain ⟨rfl, rfl⟩ := pure_eq_ok.mp h
    exact .refl _

theorem rightOperand_sound {form : Form} {right : Option Operand}
    (h : rightOperand form declared ahead = .ok (right, rest)) :
    1 + right.toList.length = form.signature.operands ∧
      ∃ ts, Spans ahead ts rest ∧ Second declared ts right := by
  unfold rightOperand at h
  split at h
  · next two =>
    obtain ⟨_, mid, read, h⟩ := bind_eq_ok.mp h
    obtain ⟨here, rfl⟩ := comma_eq_ok.mp read
    obtain ⟨x, mid, read, h⟩ := bind_eq_ok.mp h
    obtain ⟨rfl, rfl⟩ := pure_eq_ok.mp h
    obtain ⟨ts, spans, derived⟩ := operand_sound read
    exact ⟨two.symm, _, .next here (by simp) spans, .some derived⟩
  · next other =>
    obtain ⟨rfl, rfl⟩ := pure_eq_ok.mp h
    exact ⟨(form.operands_cases.resolve_right other).symm, [], .refl _, .none⟩

theorem arguments_sound {form : Form} {around : List Literal → Construct} {count : Nat}
    {found values : List Literal}
    (h : arguments form around count found ahead = .ok (values, rest)) :
    ∃ more, values = found ++ more ∧ more.length = count ∧ Spans ahead (argumentTokens more) rest ∧
      ∀ value ∈ more, form.Admits value := by
  induction count generalizing found ahead with
  | zero =>
    obtain ⟨rfl, rfl⟩ := pure_eq_ok.mp h
    exact ⟨[], by simp, rfl, .refl _, by simp⟩
  | succ count ih =>
    obtain ⟨⟨n, value⟩, mid, read, h⟩ := bind_eq_ok.mp h
    simp only [arguments.scope, within_eq_ok] at read
    obtain ⟨_, _, separator, read⟩ := bind_eq_ok.mp read
    obtain ⟨here, rfl⟩ := comma_eq_ok.mp separator
    rw [line_bind] at read
    obtain ⟨_, _, read, same⟩ := bind_eq_ok.mp read
    cases same
    cases fault : SyntaxFault.ofArgument? form value with
    | some reason => simp [fault, arguments.scope] at h
    | none =>
      simp only [fault] at h
      obtain ⟨more, rfl, rfl, spans, fits⟩ := ih h
      have tail := (literal_sound read).append spans
      refine ⟨value :: more, by simp, rfl, .next here (by simp) tail, ?_⟩
      intro other member
      rcases List.mem_cons.mp member with rfl | member
      · exact SyntaxFault.ofArgument?_eq_none.mp fault
      · exact fits other member

theorem assertion_sound {a : Assertion} (h : assertion declared ahead = .ok (a, rest)) :
    ∃ ts, Spans ahead ts rest ∧ Leaf declared ts a := by
  obtain ⟨q, _, read, h⟩ := bind_eq_ok.mp h
  have quantified := quantifier_sound read
  rw [line_bind] at h
  obtain ⟨name, _, read, h⟩ := bind_eq_ok.mp h
  obtain ⟨named, rfl⟩ := formName_eq_ok.mp (within_eq_ok.mp read)
  obtain ⟨f, _, read, h⟩ := bind_eq_ok.mp h
  obtain ⟨_, _, known, read⟩ := bind_eq_ok.mp (within_eq_ok.mp read)
  obtain ⟨rfl, unquantified, rfl⟩ := form_eq_ok.mp known
  obtain ⟨_, _, opened, read⟩ := bind_eq_ok.mp read
  obtain ⟨opens, rfl⟩ := expect_eq_ok.mp opened
  obtain ⟨rfl, rfl⟩ := pure_eq_ok.mp read
  obtain ⟨left, _, read, h⟩ := bind_eq_ok.mp h
  obtain ⟨read, counted⟩ := leftOperand_eq_ok.mp read
  obtain ⟨ts, leftSpans, leftDerived⟩ := operand_sound read
  obtain ⟨right, _, read, h⟩ := bind_eq_ok.mp h
  obtain ⟨operands, us, rightSpans, rightDerived⟩ := rightOperand_sound (within_eq_ok.mp read)
  obtain ⟨values, _, read, h⟩ := bind_eq_ok.mp h
  obtain ⟨more, rfl, count, argumentSpans, admitted⟩ := arguments_sound read
  obtain ⟨_, _, read, h⟩ := bind_eq_ok.mp h
  obtain ⟨closes, rfl⟩ := closing_eq_ok.mp (within_eq_ok.mp read)
  obtain ⟨rfl, rfl⟩ := pure_eq_ok.mp h
  refine ⟨_, ?_, .intro leftDerived rightDerived ⟨operands, count, admitted, unquantified, counted⟩⟩
  have items := ((leftSpans.append rightSpans).append argumentSpans).append (.one closes (by simp))
  exact quantified.append (.next named (by simp) (.next opens (by simp) items))

/-! ### Trees -/

theorem leaf_sound {tree : AssertionTree} (h : leaf declared ahead = .ok (tree, rest)) :
    ∃ ts a, Spans ahead ts rest ∧ tree = .leaf a ∧ Leaf declared ts a := by
  simp only [leaf, peek_bind] at h
  generalize nextToken ahead = t at h
  split at h
  iterate 3
    obtain ⟨a, _, read, h⟩ := bind_eq_ok.mp h
    obtain ⟨rfl, rfl⟩ := pure_eq_ok.mp h
    obtain ⟨ts, spans, derived⟩ := assertion_sound read
    exact ⟨ts, a, spans, rfl, derived⟩
  · simp at h

theorem disjunction_sound {part : Parser AssertionTree} {room : Nat}
    (sound : Sound part (Part declared room)) :
    Sound (disjunction part) (Disjunction declared room) := by
  intro ahead rest tree h
  have conjunctions : Sound (chain .andWord .and part) (Chain .andWord .and (Part declared room)) :=
    chain_sound (by simp) sound
  have disjunctions : Sound (disjunction part) (Chain .orWord .or _) :=
    chain_sound (by simp) conjunctions
  obtain ⟨ts, spans, trees, separated, rfl⟩ := disjunctions h
  exact ⟨ts, spans, trees, disjuncts_of_separated separated, rfl⟩

theorem part_sound (room : Nat) : Sound (part declared room) (Part declared room) := by
  induction room with
  | zero =>
    intro ahead rest tree h
    simp only [part, peek_bind] at h
    generalize nextToken ahead = t at h
    split at h
    · simp at h
    · simp at h
    · obtain ⟨ts, a, spans, rfl, derived⟩ := leaf_sound h
      exact ⟨ts, spans, .leaf derived⟩
  | succ room ih =>
    intro ahead rest tree h
    simp only [part, peek_bind] at h
    generalize here : nextToken ahead = t at h
    split at h
    · rw [within_eq_ok, advance_bind] at h
      obtain ⟨inner, _, read, h⟩ := bind_eq_ok.mp h
      obtain ⟨rfl, rfl⟩ := pure_eq_ok.mp h
      obtain ⟨ts, spans, derived⟩ := ih read
      exact ⟨_, .next here (by simp) spans, .not derived⟩
    · rw [within_eq_ok, advance_bind] at h
      obtain ⟨inner, _, read, h⟩ := bind_eq_ok.mp h
      obtain ⟨_, _, closed, h⟩ := bind_eq_ok.mp h
      obtain ⟨closes, rfl⟩ := expect_eq_ok.mp closed
      obtain ⟨rfl, rfl⟩ := pure_eq_ok.mp h
      obtain ⟨ts, spans, trees, derived, rfl⟩ := disjunction_sound ih read
      have inner := spans.append (.one closes (by simp))
      exact ⟨_, .next here (by simp) inner, .group derived⟩
    · obtain ⟨ts, a, spans, rfl, derived⟩ := leaf_sound h
      exact ⟨ts, spans, .leaf derived⟩

/-! ### Statements -/

theorem statement_sound {tree : AssertionTree} (h : statement declared ahead = .ok (tree, rest)) :
    ∃ ts, Disjunction declared maxNesting ts tree ∧
      (Spans ahead (ts ++ [.semicolon]) rest ∨
        Spans ahead ts rest ∧ nextToken rest = .endOfInput) := by
  obtain ⟨inner, mid, read, h⟩ := bind_eq_ok.mp h
  obtain ⟨ts, spans, derived⟩ := disjunction_sound (part_sound maxNesting) read
  rw [peek_bind] at h
  generalize here : nextToken mid = t at h
  split at h
  · obtain ⟨rfl, rfl⟩ := pure_eq_ok.mp h
    exact ⟨ts, derived, .inl (spans.append (.one here (by simp)))⟩
  · obtain ⟨rfl, rfl⟩ := pure_eq_ok.mp h
    exact ⟨ts, derived, .inr ⟨spans, here⟩⟩
  · obtain ⟨_, _, failed, _⟩ := bind_eq_ok.mp h
    simp at failed

theorem declaration_sound {d : Declaration} (here : nextToken ahead = .letWord)
    (h : declaration ahead = .ok (d, rest)) :
    ∃ ts, PathFrom ts d.path ∧
      Spans ahead (.letWord :: .identifier d.name :: .equals :: (ts ++ [.semicolon])) rest := by
  rw [declaration, advance_bind] at h
  obtain ⟨name, _, read, h⟩ := bind_eq_ok.mp h
  obtain ⟨named, rfl⟩ := variableName_eq_ok.mp (within_eq_ok.mp read)
  obtain ⟨_, _, read, h⟩ := bind_eq_ok.mp h
  obtain ⟨equals, rfl⟩ := expect_eq_ok.mp (within_eq_ok.mp read)
  obtain ⟨steps, mid, read, h⟩ := bind_eq_ok.mp h
  obtain ⟨ts, spans, derived⟩ := path_sound read
  obtain ⟨_, _, read, h⟩ := bind_eq_ok.mp h
  obtain ⟨ends, rfl⟩ := expect_eq_ok.mp (within_eq_ok.mp read)
  obtain ⟨rfl, rfl⟩ := pure_eq_ok.mp h
  have value := Spans.next equals (by simp) (spans.append (.one ends (by simp)))
  exact ⟨ts, derived, .next here (by simp) (.next named (by simp) value)⟩

end Parser

end Attest
