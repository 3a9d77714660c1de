import Attest.Proofs.Syntax.Procedures
/-!
# Statements of a recorder

The procedures for trees of assertions, whole statements and declarations mirror the parsers of the
grammar. Negations and groups are read one within the other only as far as there is room for them.
-/

namespace Attest

namespace Recorder

variable {t : Trace}

/-! ### Trees of assertions -/

section
variable {α : Type} {names : List String} {depth : Nat} {p : Parser AssertionTree}
  {r : Recorder Unit AssertionTree}

/-- The recorder mirrors the parser where the names are declared and so many constructs open. -/
def MirrorsAt (names : List String) (depth : Nat) (p : Parser α) (r : Recorder Unit α) : Prop :=
  ∀ t : Trace, t.now.declared = names → t.now.scope.length = depth →
    Mirrors p r (.plain ()) () t

theorem Moves.same {t t' : Trace} (moves : Moves t [] [] t') (declared : t.now.declared = names)
    (opened : t.now.scope.length = depth) :
    t'.now.declared = names ∧ t'.now.scope.length = depth := by
  rw [moves.declared, moves.scope, List.append_nil]
  exact ⟨declared, opened⟩

theorem mirrors_afterEach {separator : Token} (inner : separator ≠ .endOfInput)
    (each : MirrorsAt names depth p r) {limit other : Nat} {t : Trace}
    (declared : t.now.declared = names) (opened : t.now.scope.length = depth)
    (enough : t.now.ahead.length < limit) (enough' : t.now.ahead.length ≤ other) :
    Mirrors (Parser.afterEach separator p other) (afterEach separator r limit) (.plain ()) () t := by
  induction limit generalizing other t with
  | zero => exact absurd enough (Nat.not_lt_zero _)
  | succ limit ih =>
    by_cases here : nextToken t.now.ahead = separator
    · have more : nextToken t.now.ahead ≠ .endOfInput := here ▸ inner
      have less := length_tail_lt more
      obtain ⟨other, rfl⟩ : ∃ n, other = n + 1 := ⟨other - 1, by omega⟩
      refine mirrors_token_bind ?_
      rw [if_pos here, if_pos here]
      refine mirrors_advance_bind more fun t₁ moves₁ ahead => ?_
      obtain ⟨declared₁, opened₁⟩ := moves₁.same declared opened
      refine Mirrors.bind (each t₁ declared₁ opened₁) rfl rfl ?_
      rintro _ first _ t₂ ⟨rfl, rfl⟩ moves₂
      obtain ⟨declared₂, opened₂⟩ := moves₂.same declared₁ opened₁
      have shorter := moves₂.length_le
      rw [ahead] at shorter
      refine Mirrors.bind (ih declared₂ opened₂ (by omega) (by omega)) rfl rfl ?_
      rintro _ rest _ _ ⟨rfl, rfl⟩ _
      exact mirrors_pure ⟨rfl, rfl⟩ rfl
    · have same : Parser.afterEach separator p other t.now.ahead =
          (pure [] : Parser (List AssertionTree)) t.now.ahead := by
        cases other with
        | zero => rfl
        | succ other => rw [Parser.afterEach, Parser.peek_bind, if_neg here]
      refine Mirrors.of_eq same (mirrors_here_bind ?_)
      rw [if_neg here]
      exact mirrors_pure ⟨rfl, rfl⟩ rfl

theorem mirrors_chain {separator : Token} (join : List AssertionTree → AssertionTree)
    (inner : separator ≠ .endOfInput) (each : MirrorsAt names depth p r) :
    MirrorsAt names depth (Parser.chain separator join p) (chain separator join r) := by
  intro t declared opened
  refine Mirrors.bind (each t declared opened) rfl rfl ?_
  rintro _ first _ t₁ ⟨rfl, rfl⟩ moves
  obtain ⟨declared₁, opened₁⟩ := moves.same declared opened
  have rest := mirrors_afterEach inner each declared₁ opened₁ (Nat.lt_succ_self _)
    (Nat.le_refl _)
  refine mirrors_get_bind (Mirrors.bind rest rfl rfl ?_)
  rintro _ others _ _ ⟨rfl, rfl⟩ _
  exact mirrors_pure ⟨rfl, rfl⟩ rfl

theorem mirrors_conjunction (each : MirrorsAt names depth p r) :
    MirrorsAt names depth (Parser.chain .andWord .and p) (conjunction r) :=
  mirrors_chain .and (by simp) each

theorem mirrors_disjunction (each : MirrorsAt names depth p r) :
    MirrorsAt names depth (Parser.disjunction p) (disjunction r) :=
  mirrors_chain .or (by simp) (mirrors_conjunction each)

end

theorem mirrors_leaf : Mirrors (Parser.leaf t.now.declared) leaf (.plain ()) () t := by
  refine mirrors_token_bind ?_
  cases here : nextToken t.now.ahead with
  | allWord | anyWord | identifier =>
    refine Mirrors.bind mirrors_assertion rfl rfl ?_
    rintro _ assertion _ _ ⟨rfl, rfl⟩ _
    exact mirrors_pure ⟨rfl, rfl⟩ rfl
  | _ => exact mirrors_unexpected ⟨rfl, rfl⟩

/-- A negation or a group, which begins with a token of its own. -/
theorem mirrors_nested {construct : Construct} {p : Parser AssertionTree}
    {r : Recorder Unit AssertionTree} (more : nextToken t.now.ahead ≠ .endOfInput)
    (room : t.now.scope.length ≤ maxNesting)
    (inner : ∀ t' : Trace, t'.now.declared = t.now.declared →
      t'.now.scope.length = t.now.scope.length + 1 → Mirrors p r (.plain ()) () t') :
    Mirrors (Parser.within construct do Parser.advance; p)
      (do
        let id ← enter construct
        let inner ← attempt do advance; r
        leave id construct
        propagate inner) (.plain ()) () t := by
  have body : Mirrors (do Parser.advance; p) (do advance; r) (.plain ()) ()
      (t.step (.enter construct)) := by
    refine mirrors_advance_bind more fun t' moves _ => ?_
    obtain ⟨declared, opened⟩ := moves.same rfl rfl
    exact inner t' declared opened
  rw [← bind_pure (Parser.within construct _)]
  refine mirrors_attempted (body.shown (fun _ => construct) rfl) rfl (fun _ => room) ?_
    (fun _ => rfl) ?_
  · rintro _ rfl
    exact ⟨[], rfl, rfl, rfl⟩
  · rintro _ tree _ ⟨rfl, -⟩ _
    exact mirrors_pure ⟨rfl, rfl⟩ rfl

/-- With enough frames for the room that is left, a recorder reads what the parser reads. A part
needs a frame, and another one for each construct that may still be opened around a part. -/
theorem mirrors_part {frames depth : Nat} {names : List String} (enough : 1 ≤ frames)
    (room : maxNesting + 2 ≤ frames + depth) :
    MirrorsAt names depth (Parser.part names (maxNesting + 1 - depth)) (part frames) := by
  induction frames generalizing depth with
  | zero => exact absurd enough (Nat.not_lt_zero _)
  | succ frames ih =>
    rintro t rfl rfl
    by_cases deep : maxNesting < t.now.scope.length
    · rw [Nat.sub_eq_zero_of_le deep]
      refine mirrors_token_bind (mirrors_now_bind ?_)
      cases here : nextToken t.now.ahead with
      | notWord | leftParen =>
        rw [if_pos ⟨by simp, deep⟩]
        exact mirrors_fail ⟨rfl, rfl⟩
      | _ =>
        rw [if_neg (by simp)]
        exact mirrors_leaf
    · obtain ⟨less, left⟩ : ∃ n, maxNesting + 1 - t.now.scope.length = n + 1 :=
        ⟨maxNesting - t.now.scope.length, by omega⟩
      -- The parts of a negation or a group are read with one construct more open.
      have inner : MirrorsAt t.now.declared (t.now.scope.length + 1)
          (Parser.part t.now.declared less) (part frames) := by
        have rest : less = maxNesting + 1 - (t.now.scope.length + 1) := by omega
        rw [rest]
        exact ih (by omega) (by omega)
      rw [left]
      refine mirrors_token_bind (mirrors_now_bind ?_)
      rw [if_neg fun refused => deep refused.2]
      cases here : nextToken t.now.ahead with
      | notWord =>
        refine mirrors_nested (by simp [here]) (Nat.le_of_not_lt deep) fun t' declared opened => ?_
        refine Mirrors.bind (inner t' declared opened) rfl rfl ?_
        rintro _ tree _ _ ⟨rfl, rfl⟩ _
        exact mirrors_pure ⟨rfl, rfl⟩ rfl
      | leftParen =>
        refine mirrors_nested (by simp [here]) (Nat.le_of_not_lt deep) fun t' declared opened => ?_
        refine Mirrors.bind (mirrors_disjunction inner t' declared opened) rfl rfl ?_
        rintro _ tree _ _ ⟨rfl, rfl⟩ _
        refine Mirrors.bind (mirrors_expect (by simp)) rfl rfl ?_
        rintro _ _ _ _ ⟨rfl, rfl⟩ _
        exact mirrors_pure ⟨rfl, rfl⟩ rfl
      | _ => exact mirrors_leaf

/-! ### Statements -/

theorem mirrors_statement {frames : Nat} (enough : maxNesting + 1 ≤ frames)
    (top : t.now.scope.length = 1) :
    Mirrors (Parser.statement t.now.declared) (statement frames) (.plain ()) () t := by
  have each : MirrorsAt t.now.declared 1 (Parser.part t.now.declared maxNesting) (part frames) :=
    mirrors_part (by omega) (by omega)
  refine Mirrors.bind (mirrors_disjunction each t rfl top) rfl rfl ?_
  rintro _ tree _ t' ⟨rfl, rfl⟩ _
  refine mirrors_token_bind ?_
  cases here : nextToken t'.now.ahead with
  | semicolon =>
    exact mirrors_advance_bind (by simp [here]) fun _ _ _ => mirrors_pure ⟨rfl, rfl⟩ rfl
  | endOfInput => exact mirrors_pure ⟨rfl, rfl⟩ rfl
  | _ =>
    refine Mirrors.bind (C := .plain ()) (mirrors_unexpected ⟨rfl, rfl⟩) rfl rfl fun _ _ _ _ _ _ => ?_
    exact mirrors_pure ⟨rfl, rfl⟩ rfl

theorem mirrors_variableName {draft : DeclarationDraft} :
    Mirrors Parser.variableName variableName
      { kept := fun x y d' => y = x ∧ d' = { draft with name := some x }
        lost := fun rest d' => rest = [] ∧ d' = draft } draft t := by
  refine mirrors_token_bind ?_
  cases here : nextToken t.now.ahead with
  | identifier name =>
    exact mirrors_advance_bind (by simp [here]) fun _ _ _ =>
      mirrors_revise_bind (mirrors_pure ⟨rfl, rfl⟩ rfl)
  | _ => exact mirrors_unexpected ⟨rfl, rfl⟩

/-- The construct of a declaration that is not complete. -/
def openDeclaration (draft : DeclarationDraft) : Construct :=
  .declaration { draft with complete := false }

/-- A declaration is complete with its name, which is declared, and its path. -/
@[reducible] def declarationContract : Contract Declaration Declaration DeclarationDraft where
  kept x y d' := y = x ∧ d' = { name := some x.name, path := x.path }
  lost rest d' := rest = [openDeclaration d']
  names d := [d.name]

theorem mirrors_afterLet :
    Mirrors Parser.afterLet afterLet declarationContract {} t := by
  refine Mirrors.bind (mirrors_variableName.shown openDeclaration rfl) rfl rfl ?_
  rintro _ name _ t₁ ⟨rfl, rfl⟩ _
  refine Mirrors.bind ((mirrors_expect (by simp)).shown openDeclaration rfl) rfl rfl ?_
  rintro _ _ _ t₂ ⟨-, rfl⟩ _
  refine mirrors_lend_bind (mirrors_path _) rfl (fun _ _ shown => shown) ?_
  rintro _ _ path t₃ rfl _
  refine Mirrors.bind ((mirrors_expect (by simp)).shown openDeclaration rfl) rfl rfl ?_
  rintro _ _ _ t₄ ⟨-, rfl⟩ _ _
  have moves : Moves t₄ (declarationContract.names ⟨name, path⟩) [] _ := .declare name
  exact Agrees.ok moves ⟨rfl, rfl⟩

theorem mirrors_declarationBody (here : nextToken t.now.ahead = .letWord) :
    Mirrors Parser.declaration declarationBody declarationContract {} t :=
  mirrors_advance_bind (f := fun _ => Parser.afterLet) (by simp [here])
    fun _ _ _ => mirrors_afterLet

end Recorder

end Attest
