import Attest.Proofs.Syntax.Mirrors
/-!
# The procedures of a recorder

Each procedure of a recorder mirrors a parser of the grammar.
-/

namespace Attest

namespace Parser

variable {α β : Type} {p : Parser α} {f : α → Parser β}

theorem within_bind (construct : Construct) :
    within construct (p >>= f) = (within construct p >>= fun x => within construct (f x)) := by
  funext ahead
  rw [bind_eq_match]
  unfold within
  rw [bind_eq_match]
  cases p ahead <;> rfl

theorem within_pure (construct : Construct) (x : α) : within construct (pure x) = pure x := rfl

theorem within_line (construct : Construct) : within construct line = line := rfl

/-- The step behind a point. -/
def pointStep : Parser Step := do
  match ← peek with
  | .identifier name => advance; return .field name
  | .star => advance; return .wildcard
  | _ => unexpected .stepName

/-- The step behind an opening bracket. -/
def keyStep : Parser Step := do
  match bracketStep (← peek) with
  | .error fault => fail fault
  | .ok step =>
    advance
    within (.step step) (expect .rightBracket .rightBracket)
    return step

theorem keyStep_cons (key : Lexeme) (ahead : List Lexeme) :
    keyStep (key :: ahead) =
      match bracketStep key.token with
      | .error fault => fail fault (key :: ahead)
      | .ok step =>
        match within (.step step) (expect .rightBracket .rightBracket) ahead with
        | .ok (_, rest) => .ok (step, rest)
        | .error failure => .error failure := by
  rw [keyStep, peek_bind]
  show (match bracketStep key.token with
    | .error fault => fail fault
    | .ok step => _ : Parser Step) (key :: ahead) = _
  cases bracketStep key.token with
  | error fault => rfl
  | ok step =>
    let bracket : Parser Unit := within (.step step) (expect .rightBracket .rightBracket)
    show (bracket >>= fun _ => pure step) ahead =
      match bracket ahead with
      | .ok (_, rest) => .ok (step, rest)
      | .error failure => .error failure
    rw [bind_eq_match]
    cases bracket ahead <;> rfl

theorem steps_eq (around : Path → Construct) (found : Path) (ahead : List Lexeme) :
    steps around found ahead =
      (do
        match ← peek with
        | .dot =>
          advance
          let step ← within (around found) pointStep
          steps around (found ++ [step])
        | .leftBracket =>
          advance
          let step ← within (around found) keyStep
          steps around (found ++ [step])
        | _ => return found) ahead := by
  cases ahead with
  | nil => rfl
  | cons lexeme ahead =>
    obtain ⟨token, start, stop⟩ := lexeme
    cases token with
    | dot =>
      cases ahead with
      | nil => rfl
      | cons next ahead =>
        obtain ⟨token, start, stop⟩ := next
        cases token <;> rfl
    | leftBracket =>
      cases ahead with
      | nil => rfl
      | cons key ahead =>
        rw [peek_bind]
        show _ = (within (around found) keyStep >>= fun step => steps around (found ++ [step]))
          (key :: ahead)
        rw [bind_eq_match, within.eq_def, keyStep_cons, steps]
        cases bracketStep key.token with
        | error fault => rfl
        | ok step =>
          cases ahead with
          | nil => rfl
          | cons next ahead =>
            obtain ⟨token, start, stop⟩ := next
            cases token <;> rfl
    | _ => rfl

theorem steps_of_leftBracket (around : Path → Construct) (found : Path) {ahead : List Lexeme}
    (here : nextToken ahead = .leftBracket) :
    steps around found ahead =
      (do
        advance
        let step ← within (around found) keyStep
        steps around (found ++ [step])) ahead := by
  rw [steps_eq, peek_bind, here]

end Parser

theorem length_tail_lt {ahead : List Lexeme} (more : nextToken ahead ≠ .endOfInput) :
    ahead.tail.length < ahead.length := by
  cases ahead with
  | nil => exact absurd rfl more
  | cons lexeme ahead => exact Nat.lt_succ_self _

namespace Recorder

variable {δ : Type} {d : δ} {t : Trace}

/-! ### Paths -/

theorem mirrors_stepName (found : Path) :
    Mirrors Parser.pointStep stepName
      { kept := fun step _ d' => d' = found ++ [step], lost := fun rest d' => rest = [] ∧ d' = found }
      found t := by
  refine mirrors_token_bind ?_
  cases here : nextToken t.now.ahead with
  | identifier name =>
    exact mirrors_advance_bind (by rw [here]; simp) fun _ _ _ => mirrors_revise rfl rfl
  | star => exact mirrors_advance_bind (by rw [here]; simp) fun _ _ _ => mirrors_revise rfl rfl
  | _ => exact mirrors_unexpected ⟨rfl, rfl⟩

theorem ne_end_of_bracketStep {here : Token} {step : Step}
    (read : Parser.bracketStep here = .ok step) : here ≠ .endOfInput := by
  rintro rfl
  cases read

theorem mirrors_stepKey (found : Path) :
    Mirrors Parser.keyStep stepKey
      { kept := fun step _ d' => d' = found ++ [step], lost := fun rest d' => rest = [] ∧ d' = found }
      found t := by
  refine mirrors_token_bind ?_
  cases read : Parser.bracketStep (nextToken t.now.ahead) with
  | error fault => exact mirrors_fail ⟨rfl, rfl⟩
  | ok step =>
    refine mirrors_advance_bind (ne_end_of_bracketStep read) fun t' _ _ => ?_
    refine mirrors_attempted ((mirrors_expect (by simp)).shown (fun _ => .step step) rfl) rfl
      (fun nests => nests.elim) ?_ (fun _ => rfl) ?_
    · rintro rest rfl
      exact ⟨[], rfl, rfl, rfl⟩
    · exact fun _ _ _ _ _ => mirrors_revise rfl rfl

theorem mirrors_stepsWithin (around : Path → Construct) {limit : Nat} {found : Path}
    (enough : t.now.ahead.length < limit) :
    Mirrors (Parser.steps around found) (stepsWithin limit)
      (.showing around fun x _ d' => d' = x) found t := by
  induction limit generalizing found t with
  | zero => exact absurd enough (Nat.not_lt_zero _)
  | succ limit ih =>
    refine Mirrors.of_eq (Parser.steps_eq around found _) (mirrors_token_bind ?_)
    -- A step passes its first token, so fewer tokens are ahead of the next one.
    have shorter : ∀ {t' t'' : Trace}, nextToken t.now.ahead ≠ .endOfInput →
        t'.now.ahead = t.now.ahead.tail → Moves t' [] [] t'' →
        t''.now.ahead.length < limit := by
      intro t' t'' more ahead later
      have less := length_tail_lt more
      have further := later.length_le
      rw [ahead] at further
      omega
    cases here : nextToken t.now.ahead with
    | dot =>
      have more : nextToken t.now.ahead ≠ .endOfInput := by simp [here]
      refine mirrors_advance_bind more fun t' moves ahead => ?_
      refine Mirrors.bind ((mirrors_stepName found).shown around rfl) rfl rfl
        fun step _ _ t'' kept later => ?_
      subst kept
      exact ih (shorter more ahead later)
    | leftBracket =>
      have more : nextToken t.now.ahead ≠ .endOfInput := by simp [here]
      refine mirrors_advance_bind (g := fun _ => stepKey >>= fun _ => stepsWithin limit) more
        fun t' moves ahead => ?_
      refine Mirrors.bind ((mirrors_stepKey found).shown around rfl) rfl rfl
        fun step _ _ t'' kept later => ?_
      subst kept
      exact ih (shorter more ahead later)
    | _ => exact mirrors_pure rfl rfl

theorem mirrors_steps (around : Path → Construct) {found : Path} :
    Mirrors (Parser.steps around found) steps (.showing around fun x _ d' => d' = x) found t :=
  mirrors_now_bind (mirrors_stepsWithin around (Nat.lt_succ_self _))

theorem mirrors_path (around : Path → Construct) :
    Mirrors (Parser.path around) path (.showing around fun x _ d' => d' = x) [] t := by
  refine mirrors_token_bind ?_
  cases here : nextToken t.now.ahead with
  | dollar =>
    exact mirrors_advance_bind (by simp [here]) fun _ _ _ => mirrors_steps around
  | identifier name =>
    exact mirrors_revise_bind (mirrors_advance_bind (by simp [here]) fun _ _ _ =>
      mirrors_steps around)
  | star =>
    exact mirrors_revise_bind (mirrors_advance_bind (by simp [here]) fun _ _ _ =>
      mirrors_steps around)
  | leftBracket =>
    refine Mirrors.of_eq (Parser.steps_of_leftBracket around [] here) ?_
    refine mirrors_advance_bind (g := fun _ => stepKey >>= fun _ => steps) (by simp [here])
      fun t' _ _ => ?_
    refine Mirrors.bind ((mirrors_stepKey []).shown around rfl) rfl rfl
      fun step _ _ t'' kept _ => ?_
    subst kept
    exact mirrors_steps around
  | _ => exact Mirrors.shown (mirrors_unexpected ⟨rfl, rfl⟩) around rfl

/-! ### Operands -/

/-- What it does to a trace to take a token out and to go on. -/
theorem Moves.take (more : nextToken t.now.ahead ≠ .endOfInput) :
    Moves t [] [] ((t.step (.overwrite .endOfInput)).step Point.advance) where
  scope := rfl
  kept _ _ := rfl
  spans := by
    refine ⟨[nextToken t.now.ahead], ?_⟩
    show Spans _ _ (t.now.ahead.modifyHead _).tail
    rw [List.tail_modifyHead]
    exact .one rfl more
  declared := (List.append_nil _).symm
  errors := (List.append_nil _).symm
  exhausted := rfl
  run run := .advance (.overwrite _ run)

theorem overwrite_nextToken (other : Token) (p : Point) :
    ((p.overwrite other).overwrite (nextToken p.ahead)).ahead = p.ahead := by
  unfold Point.overwrite
  cases p.ahead <;> rfl

/-- What it does to a trace to take a token out and to put it back. -/
theorem Moves.putBack (other : Token) :
    Moves t [] [] ((t.step (.overwrite other)).step (.overwrite (nextToken t.now.ahead))) where
  scope := rfl
  kept _ _ := rfl
  spans := ⟨[], (overwrite_nextToken other t.now).symm ▸ .refl _⟩
  declared := (List.append_nil _).symm
  errors := (List.append_nil _).symm
  exhausted := rfl
  run run := .overwrite _ (.overwrite _ run)

theorem literal_eq :
    (literal : Recorder δ Literal) d t =
      match Parser.literal? (nextToken t.now.ahead) with
      | some value => ⟨some value, d, (t.step (.overwrite .endOfInput)).step Point.advance⟩
      | none => unexpected .literal d
        ((t.step (.overwrite .endOfInput)).step (.overwrite (nextToken t.now.ahead))) := by
  show (match Parser.literal? (nextToken t.now.ahead) with
    | some value => do advance; return value
    | none => do overwrite (nextToken t.now.ahead); unexpected .literal : Recorder δ Literal) d
      (t.step (.overwrite .endOfInput)) = _
  cases Parser.literal? (nextToken t.now.ahead) <;> rfl

theorem mirrors_literal_bind {γ β : Type} {f : Unit → Parser γ} {g : Literal → Recorder δ β}
    {D : Contract γ β δ} {value : Literal}
    (read : Parser.literal? (nextToken t.now.ahead) = some value)
    (next : ∀ t', Moves t [] [] t' → Mirrors (f ()) (g value) D d t') :
    Mirrors (Parser.advance >>= f) (literal >>= g) D d t := by
  intro opened
  have more : nextToken t.now.ahead ≠ .endOfInput := by
    intro last
    rw [last] at read
    cases read
  have ahead : ((t.now.overwrite .endOfInput).advance).ahead = t.now.ahead.tail :=
    List.tail_modifyHead
  have moves := Moves.take more
  have agrees := next _ moves (moves.opened opened)
  rw [bind_eq_match, literal_eq, read, Parser.advance_bind, ← ahead]
  exact agrees.after moves

theorem mirrors_literal : Mirrors Parser.literal literal (.plain d) d t := by
  cases read : Parser.literal? (nextToken t.now.ahead) with
  | some value =>
    have same : Parser.literal t.now.ahead =
        (do Parser.advance; return value : Parser Literal) t.now.ahead := by
      rw [Parser.literal, Parser.peek_bind, read]
    refine Mirrors.of_eq same ?_
    rw [← bind_pure_eq literal]
    exact mirrors_literal_bind read fun _ _ => mirrors_pure ⟨rfl, rfl⟩ rfl
  | none =>
    have same : Parser.literal t.now.ahead = Parser.unexpected .literal t.now.ahead := by
      rw [Parser.literal, Parser.peek_bind, read]
    intro opened
    have moves := Moves.putBack (t := t) .endOfInput
    have fails (t : Trace) : Mirrors (Parser.unexpected .literal) (unexpected .literal)
        (.plain d : Contract Literal Literal δ) d t := mirrors_unexpected ⟨rfl, rfl⟩
    have agrees := (fails _ (moves.opened opened)).after moves
    have ahead : ((t.step (.overwrite .endOfInput)).step
        (.overwrite (nextToken t.now.ahead))).now.ahead = t.now.ahead := overwrite_nextToken _ _
    rw [ahead] at agrees
    rw [same, literal_eq, read]
    exact agrees

theorem mirrors_bound (name : String) (more : nextToken t.now.ahead ≠ .endOfInput) :
    Mirrors (Parser.operand.bound name) (operandBody.bound name)
      (.showing (fun _ => .operand) fun x y _ => y = x) () t := by
  refine mirrors_advance_bind more fun t' _ _ => ?_
  refine mirrors_fresh_bind (mirrors_steps _) rfl ?_ ?_
  · exact fun rest d' gone => ⟨gone, fun _ => rfl⟩
  · rintro x y d' t'' rfl _
    exact mirrors_pure rfl rfl

theorem mirrors_rooted :
    Mirrors Parser.operand.rooted operandBody.rooted
      (.showing (fun _ => .operand) fun x y _ => y = x) () t := by
  refine mirrors_fresh_bind (mirrors_path _) rfl ?_ ?_
  · exact fun rest d' gone => ⟨gone, fun _ => rfl⟩
  · rintro x y d' t'' rfl _
    exact mirrors_pure rfl rfl

theorem mirrors_operandBody :
    Mirrors (Parser.operand t.now.declared) operandBody
      (.showing (fun _ => .operand) fun x y _ => y = x) () t := by
  refine mirrors_token_bind ?_
  cases here : nextToken t.now.ahead with
  | integer | float | string | boolean | null =>
    exact mirrors_literal_bind (by rw [here]; rfl) fun _ _ => mirrors_pure rfl rfl
  | «variable» name => exact mirrors_bound name (by simp [here])
  | identifier name =>
    refine mirrors_now_bind ?_
    show Mirrors (if t.now.declared.contains name then _ else _) _ _ _ _
    split
    · next known => exact mirrors_bound name (by simp [here])
    · exact mirrors_rooted
  | dollar | star | leftBracket => exact mirrors_rooted
  | _ => exact Mirrors.shown (mirrors_unexpected ⟨rfl, rfl⟩) (fun _ => .operand) rfl

theorem mirrors_operand :
    Mirrors (Parser.operand t.now.declared) operand (.plain d) d t := by
  rw [← bind_pure (Parser.operand t.now.declared)]
  refine mirrors_attempted mirrors_operandBody rfl (fun nests => nests.elim) ?_ (fun _ => rfl) ?_
  · rintro rest rfl
    exact ⟨[], rfl, rfl, rfl⟩
  · rintro x y t' rfl _
    exact mirrors_pure ⟨rfl, rfl⟩ rfl

/-! ### Assertions -/

theorem mirrors_comma (form : Form) : Mirrors (Parser.comma form) (comma form) (.plain d) d t := by
  refine mirrors_token_bind ?_
  cases here : nextToken t.now.ahead with
  | comma => exact mirrors_advance (by simp [here])
  | rightParen => exact mirrors_fail ⟨rfl, rfl⟩
  | _ => exact mirrors_unexpected ⟨rfl, rfl⟩

/-- The draft of a predicate is around a failure of its arguments, and what it is part of around
it. -/
@[reducible] def argumentContract {α β : Type} (around : List Literal → Construct)
    (kept : α → β → Predicate → Prop) : Contract α β Predicate where
  kept := kept
  lost rest d' := rest = [.predicate d', around d'.arguments]

theorem mirrors_scope {α β : Type} {p : Parser α} {r : Recorder Predicate β} {form : Form}
    {around : List Literal → Construct} {found : List Literal} {kept : α → β → Predicate → Prop}
    (inner : Mirrors p r { kept, lost := fun rest d' => rest = [] ∧ d' = ⟨form, found⟩ }
      ⟨form, found⟩ t) :
    Mirrors (Parser.arguments.scope form around found p) r (argumentContract around kept)
      ⟨form, found⟩ t := by
  have predicate : Mirrors (Parser.within (.predicate ⟨form, found⟩) p) r
      { kept, lost := fun rest d' => rest = [.predicate d'] ∧ d' = ⟨form, found⟩ }
      ⟨form, found⟩ t := by
    refine inner.within ?_
    rintro _ _ ⟨rfl, rfl⟩
    exact ⟨rfl, rfl⟩
  refine predicate.within ?_
  rintro _ _ ⟨rfl, rfl⟩
  rfl

theorem mirrors_argumentsMore (form : Form) (around : List Literal → Construct) (count : Nat)
    (found : List Literal) :
    Mirrors (Parser.arguments form around count found) (argumentsMore count)
      (argumentContract around fun x _ d' => d' = ⟨form, x⟩) ⟨form, found⟩ t := by
  induction count generalizing found t with
  | zero => exact mirrors_pure rfl rfl
  | succ count ih =>
    rw [Parser.arguments, Parser.arguments.scope]
    simp only [Parser.within_bind, Parser.within_pure, Parser.within_line, bind_assoc, pure_bind]
    refine mirrors_draft_bind (Mirrors.bind (mirrors_scope (mirrors_comma form)) rfl rfl ?_)
    rintro _ _ _ t' ⟨rfl, rfl⟩ _
    refine mirrors_line_bind (Mirrors.bind (mirrors_scope mirrors_literal) rfl rfl ?_)
    rintro _ value _ t'' ⟨rfl, rfl⟩ _
    refine mirrors_revise_bind (mirrors_draft_bind ?_)
    dsimp only
    cases SyntaxFault.ofArgument? form value with
    | some fault => exact mirrors_scope (mirrors_failOn ⟨rfl, rfl⟩)
    | none => exact ih (found ++ [value])

theorem mirrors_arguments (form : Form) (around : List Literal → Construct) :
    Mirrors (Parser.arguments form around form.signature.arguments []) arguments
      (argumentContract around fun x _ d' => d' = ⟨form, x⟩) ⟨form, []⟩ t :=
  mirrors_draft_bind (mirrors_argumentsMore form around form.signature.arguments [])

/-- The construct of a leaf assertion that is not complete. -/
def openAssertion (draft : AssertionDraft) : Construct :=
  .assertion { draft with complete := false }

theorem mirrors_quantifier {D : Contract (Option Quantifier) (Option Quantifier) AssertionDraft}
    {draft : AssertionDraft}
    (kept : ∀ quantifier, D.kept quantifier quantifier { draft with quantifier })
    (nameless : D.names = fun _ => []) : Mirrors Parser.quantifier quantifier D draft t := by
  refine mirrors_token_bind ?_
  cases here : nextToken t.now.ahead with
  | allWord =>
    exact mirrors_advance_bind (by simp [here]) fun _ _ _ =>
      mirrors_revise_bind (mirrors_pure (kept _) (congrFun nameless _))
  | anyWord =>
    exact mirrors_advance_bind (by simp [here]) fun _ _ _ =>
      mirrors_revise_bind (mirrors_pure (kept _) (congrFun nameless _))
  | _ => exact mirrors_revise_bind (mirrors_pure (kept _) (congrFun nameless _))

theorem mirrors_formName {draft : AssertionDraft} :
    Mirrors Parser.formName formName
      { kept := fun x y d' => y = x ∧ d' = { draft with form := some x }
        lost := fun rest d' => rest = [] ∧ d' = draft } draft t := by
  refine mirrors_token_bind ?_
  cases here : nextToken t.now.ahead with
  | identifier name =>
    exact mirrors_advance_bind (by simp [here]) fun _ _ _ =>
      mirrors_revise_bind (mirrors_pure ⟨rfl, rfl⟩ rfl)
  | _ => exact mirrors_unexpected ⟨rfl, rfl⟩

theorem mirrors_form (line : Nat) (name : String) (quantifier : Option Quantifier) :
    Mirrors (Parser.form line name quantifier) (form line name quantifier) (.plain d) d t := by
  unfold Parser.form form
  cases Form.ofName? name with
  | none => exact mirrors_failOn ⟨rfl, rfl⟩
  | some form =>
    cases quantifier with
    | none => exact mirrors_pure ⟨rfl, rfl⟩ rfl
    | some quantifier =>
      dsimp only
      split
      · exact mirrors_failOn ⟨rfl, rfl⟩
      · exact mirrors_pure ⟨rfl, rfl⟩ rfl

/-- The draft with one more item. -/
def withItem (draft : AssertionDraft) (item : Operand) : AssertionDraft :=
  { draft with items := draft.items ++ [item.text] }

theorem mirrors_formOperand (form : Form) (draft : AssertionDraft) :
    Mirrors
      (Parser.leftOperand form t.now.declared fun items =>
        openAssertion { draft with items := draft.items ++ items })
      (formOperand form)
      (.showing openAssertion fun x y d' => y = x ∧ d' = withItem draft x) draft t := by
  refine mirrors_line_bind ?_
  refine Mirrors.bind (mirrors_operand.shown openAssertion ?_) rfl rfl ?_
  · simp only [List.append_nil]
  · rintro _ operand _ t' ⟨rfl, rfl⟩ _
    refine mirrors_revise_bind ?_
    cases operand with
    | literal value =>
      dsimp only
      split
      · exact Mirrors.shown (mirrors_failOn ⟨rfl, rfl⟩) openAssertion rfl
      · exact mirrors_pure ⟨rfl, rfl⟩ rfl
    | _ => exact mirrors_pure ⟨rfl, rfl⟩ rfl

theorem operands_eq (form : Form) :
    form.signature.operands = 1 ∨ form.signature.operands = 2 ∧ form.countsNodes = false := by
  cases form
  all_goals decide

/-- Without a literal to refuse, an operand of a form is any operand. -/
theorem leftOperand_eq {form : Form} (declared : List String) (around : List String → Construct)
    (values : form.countsNodes = false) :
    Parser.leftOperand form declared around =
      Parser.within (around []) (Parser.operand declared) := by
  funext ahead
  rw [Parser.leftOperand, Parser.line_bind, Parser.bind_eq_match]
  cases Parser.within (around []) (Parser.operand declared) ahead with
  | error failure => rfl
  | ok result =>
    obtain ⟨operand, rest⟩ := result
    cases operand <;> simp only [values, Bool.false_eq_true, if_false] <;> rfl

/-- The operands of a form. -/
def bothOperands (form : Form) (declared : List String) (around : List String → Construct) :
    Parser (Operand × Option Operand) := do
  let left ← Parser.leftOperand form declared around
  let right ← Parser.within (around [left.text]) (Parser.rightOperand form declared)
  return (left, right)

theorem mirrors_rightOperand {form : Form} (draft : AssertionDraft)
    (two : form.signature.operands = 2) (values : form.countsNodes = false) :
    Mirrors
      (Parser.within (openAssertion draft) (Parser.rightOperand form t.now.declared))
      (operandsMore form 1 1)
      (.showing openAssertion fun x y d' => y = x.toList ∧
        d' = { draft with items := draft.items ++ x.toList.map Operand.text }) draft t := by
  rw [Parser.rightOperand, two, if_pos rfl]
  simp only [operandsMore, Nat.one_pos, if_true, Parser.within_bind, Parser.within_pure]
  refine Mirrors.bind ((mirrors_comma form).shown openAssertion rfl) rfl rfl ?_
  rintro _ _ draft t' ⟨rfl, rfl⟩ moves
  have second := mirrors_formOperand (t := t') form draft
  rw [leftOperand_eq _ _ values, moves.declared, List.append_nil] at second
  simp only [List.append_nil] at second
  refine Mirrors.bind second rfl rfl ?_
  rintro _ right _ t'' ⟨rfl, rfl⟩ _
  exact mirrors_pure ⟨rfl, rfl⟩ rfl

theorem mirrors_operands (form : Form) (draft : AssertionDraft) :
    Mirrors
      (bothOperands form t.now.declared fun items =>
        openAssertion { draft with items := draft.items ++ items })
      (operandsMore form 0 form.signature.operands)
      (.showing openAssertion fun x y d' => y = x.1 :: x.2.toList ∧
        d' = { draft with items := draft.items ++ (x.1 :: x.2.toList).map Operand.text })
      draft t := by
  rcases operands_eq form with one | ⟨two, values⟩
  · rw [one, operandsMore]
    refine Mirrors.bind (mirrors_formOperand form draft) rfl rfl ?_
    rintro _ left _ t' ⟨rfl, rfl⟩ _
    have noRight : Parser.rightOperand form t.now.declared = pure none := by
      rw [Parser.rightOperand, one]
      rfl
    rw [noRight, Parser.within_pure, pure_bind]
    exact mirrors_pure ⟨rfl, rfl⟩ rfl
  · rw [two, operandsMore]
    refine Mirrors.bind (mirrors_formOperand form draft) rfl rfl ?_
    rintro _ left _ t' ⟨rfl, rfl⟩ moves
    have second := mirrors_rightOperand (t := t') (withItem draft left) two values
    rw [moves.declared, List.append_nil] at second
    refine Mirrors.bind second rfl rfl ?_
    rintro right _ _ t'' ⟨rfl, rfl⟩ _
    refine mirrors_pure ⟨rfl, ?_⟩ rfl
    simp [withItem]

theorem mirrors_closing (form : Form) :
    Mirrors (Parser.closing form) (closing form) (.plain d) d t := by
  refine mirrors_token_bind ?_
  split
  · exact mirrors_fail ⟨rfl, rfl⟩
  · exact mirrors_expect (by simp)

theorem mirrors_assertionBody :
    Mirrors (Parser.assertion t.now.declared) assertionBody
      (.showing openAssertion fun x y _ => y = x) {} t := by
  have flat : Parser.assertion t.now.declared = (do
      let quantifier ← Parser.quantifier
      let line ← Parser.line
      let name ← Parser.within (openAssertion { quantifier }) Parser.formName
      let around (items : List String) : Construct :=
        openAssertion { quantifier, form := some name, items }
      let form ← Parser.within (around []) (Parser.form line name quantifier)
      Parser.within (around []) (Parser.expect .leftParen .leftParen)
      let both ← bothOperands form t.now.declared around
      let operands := (both.1 :: both.2.toList).map Operand.text
      let arguments ← Parser.arguments form
        (fun found => around (operands ++ found.map Literal.text)) form.signature.arguments []
      Parser.within (around (operands ++ arguments.map Literal.text)) (Parser.closing form)
      return ⟨quantifier, ⟨form, arguments⟩, both.1, both.2⟩) := by
    unfold Parser.assertion bothOperands
    simp only [Parser.within_bind, Parser.within_pure, bind_assoc, pure_bind]
    rfl
  rw [flat]
  refine Mirrors.bind (C := { kept := fun x y d' => y = x ∧ d' = { quantifier := x }, lost := _ })
    (mirrors_quantifier (fun _ => ⟨rfl, rfl⟩) rfl) rfl rfl ?_
  rintro _ quantifier _ t₁ ⟨rfl, rfl⟩ moves₁
  refine mirrors_line_bind ?_
  refine Mirrors.bind (mirrors_formName.shown openAssertion rfl) rfl rfl ?_
  rintro _ name _ t₂ ⟨rfl, rfl⟩ moves₂
  refine Mirrors.bind ((mirrors_form _ name quantifier).shown openAssertion rfl) rfl rfl ?_
  rintro _ form _ t₃ ⟨rfl, rfl⟩ moves₃
  refine Mirrors.bind ((mirrors_expect (by simp)).shown openAssertion rfl) rfl rfl ?_
  rintro _ _ _ t₄ ⟨-, rfl⟩ moves₄
  have names : t₄.now.declared = t.now.declared := by
    simp only [moves₄.declared, moves₃.declared, moves₂.declared, moves₁.declared,
      List.append_nil]
  have both := mirrors_operands (t := t₄) form { quantifier, form := some name }
  rw [names] at both
  refine Mirrors.bind both rfl rfl ?_
  rintro ⟨left, right⟩ _ _ t₅ ⟨rfl, rfl⟩ _
  refine mirrors_enclosed (fun ending => .predicate ending.2) (mirrors_arguments form _) rfl
    (fun _ => .predicate _ _) (fun nests => nests.elim) ?_ ?_
  · rintro _ predicate rfl
    exact ⟨_, _, rfl, rfl, fun _ => rfl⟩
  rintro arguments _ _ t₆ rfl _
  refine mirrors_revise_bind (mirrors_propagate_bind ?_)
  refine Mirrors.bind ((mirrors_closing form).shown openAssertion rfl) rfl rfl ?_
  rintro _ _ _ t₇ ⟨-, rfl⟩ _
  refine mirrors_pure ?_ rfl
  show (⟨quantifier, ⟨form, arguments⟩, left, right.toList.head?⟩ : Assertion) = _
  rw [Option.head?_toList]

theorem mirrors_assertion :
    Mirrors (Parser.assertion t.now.declared) assertion (.plain d) d t := by
  rw [← bind_pure (Parser.assertion t.now.declared)]
  refine mirrors_enclosed
    (fun ending => .assertion { ending.2 with complete := ending.1.isSome }) mirrors_assertionBody
    rfl (fun _ => .assertion _ _) (fun nests => nests.elim) ?_ ?_
  · rintro _ draft rfl
    exact ⟨[], d, rfl, ⟨rfl, rfl⟩, fun _ => rfl⟩
  · rintro _ assertion _ t' rfl _
    exact mirrors_pure ⟨rfl, rfl⟩ rfl

end Recorder

end Attest
