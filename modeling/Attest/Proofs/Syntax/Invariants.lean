import Attest.Proofs.Syntax.Parses
import Mathlib.Data.List.Find
/-!
# Invariants of a parse

What holds at every point of the parse of any source, whether it succeeds or not: of the open
constructs, of the tree and its errors, of the tokens that are passed and of how deep the parse goes.
-/

namespace Attest

open SyntaxTree

/-- The messages of the errors, their lines, and what is around them. -/
def SyntaxErrors.located (e : SyntaxErrors) : List (String × Nat × List Construct) :=
  e.errors.map fun error => (error.message, error.line, e.tree.ancestors error.node)

namespace Recorder

variable {t : Trace} {lexemes : List Lexeme} {ending : Ending Found Unit}

/-! ### Errors of a source -/

theorem located_eq {tree : SyntaxTree} {errors : List SyntaxError} {failures : List Failure}
    (stand : List.Forall₂ (Stands tree) errors failures) :
    SyntaxErrors.located ⟨errors, tree⟩ =
      failures.map fun f => (f.fault.message, f.line, f.trail ++ [.model]) := by
  show errors.map _ = _
  induction stand with
  | nil => rfl
  | cons stands _ ih =>
    rw [List.map_cons, List.map_cons, ih, stands.message, stands.line, stands.chained.ancestors_eq]

theorem chained_of_stand {tree : SyntaxTree} {errors : List SyntaxError} {failures : List Failure}
    (stand : List.Forall₂ (Stands tree) errors failures) {e : SyntaxError} (member : e ∈ errors) :
    ∃ around, Chained tree e.node around := by
  induction stand with
  | nil => cases member
  | cons stands _ ih =>
    rcases List.mem_cons.mp member with rfl | member
    · exact ⟨_, stands.chained⟩
    · exact ih member

theorem stand_foldl_add {e : SyntaxErrors} {earlier : List Failure}
    (root : Chained e.tree 0 [.model]) (stand : List.Forall₂ (Stands e.tree) e.errors earlier)
    (failures : List Failure) :
    List.Forall₂ (Stands (failures.foldl SyntaxErrors.add e).tree)
      (failures.foldl SyntaxErrors.add e).errors (earlier ++ failures) := by
  induction failures generalizing e earlier with
  | nil => rwa [List.append_nil]
  | cons f failures ih =>
    have new : Stands (e.add f).tree ⟨f.fault.message, f.line, (e.tree.pushTrail 0 f.trail).2⟩ f :=
      ⟨rfl, rfl, chained_pushTrail f.trail root⟩
    have old : List.Forall₂ (Stands (e.add f).tree) e.errors earlier :=
      stand.imp fun _ _ stands =>
        ⟨stands.message, stands.line, stands.chained.pushTrail f.trail⟩
    rw [List.foldl_cons, ← List.singleton_append, ← List.append_assoc]
    exact ih (root.pushTrail f.trail) (List.rel_append old (.cons new .nil))

theorem stand_ofFailures (failures : List Failure) :
    List.Forall₂ (Stands (SyntaxErrors.ofFailures failures).tree)
      (SyntaxErrors.ofFailures failures).errors failures :=
  stand_foldl_add (e := ⟨[], SyntaxTree.push {} none .model⟩) (.root rfl) .nil failures

/-- A parse gives what the parsers of the grammar give, with the same constructs around each
error. -/
theorem Parsed.specification_eq (parsed : Parsed lexemes ending) :
    ending.specification.mapError SyntaxErrors.located =
      (Specification.ofLexemes lexemes).mapError SyntaxErrors.located := by
  unfold Ending.specification Specification.ofLexemes
  dsimp only
  rw [isEmpty_of_stand parsed.failures, parsed.declarations, parsed.statements,
    Reading.tree_eq_joined]
  cases (Reading.ofLexemes lexemes).failures.isEmpty with
  | true => rfl
  | false =>
    have same := (located_eq parsed.failures).trans (located_eq (stand_ofFailures _)).symm
    exact congrArg Except.error same

theorem Parsed.errors_length_le (parsed : Parsed lexemes ending) :
    if sourceTokens lexemes = [] then ending.trace.now.errors.length = 1
    else ending.trace.now.errors.length ≤ (sourceTokens lexemes).length := by
  have few := parsed.few
  split
  · next tokenless =>
    obtain ⟨rest, spans, ended⟩ := spans_sourceTokens lexemes
    rw [tokenless, Spans.nil_iff] at spans
    have missing : Reading.ofLexemes lexemes =
        Reading.fail {} ⟨.noAssertion, nextLine lexemes, [], lexemes⟩ := by
      unfold Reading.ofLexemes
      rw [Reading.run_end (spans ▸ ended)]
      rfl
    rw [parsed.failures.length_eq, missing]
    rfl
  · next nonempty =>
    have one := List.length_pos_iff.mpr nonempty
    omega

theorem ordered_foldl_add {e : SyntaxErrors} (root : Chained e.tree 0 [.model])
    (ordered : e.tree.Ordered) (failures : List Failure) :
    (failures.foldl SyntaxErrors.add e).tree.Ordered := by
  induction failures generalizing e with
  | nil => exact ordered
  | cons f failures ih => exact ih (root.pushTrail f.trail) (ordered.pushTrail root f.trail)

theorem lineage_of_failed {errors : SyntaxErrors} {e : SyntaxError}
    (failed : Specification.ofLexemes lexemes = .error errors) (member : e ∈ errors.errors) :
    ∃ scope, Lineage errors.tree e.node scope := by
  have same : errors = .ofFailures (Reading.ofLexemes lexemes).failures := by
    unfold Specification.ofLexemes at failed
    dsimp only at failed
    split at failed
    · cases failed
    · exact (Except.error.inj failed).symm
  subst same
  obtain ⟨_, chained⟩ := chained_of_stand (stand_ofFailures _) member
  obtain ⟨outer, linked⟩ := chained.exists_linked
  exact ⟨_, linked.lineage (ordered_foldl_add (.root rfl) Run.ordered_opened _)⟩

/-! ### Procedures -/

/-- The procedures of a parse, each with what holds of the draft and the point where it is
called. -/
inductive Procedure : {δ α : Type} → Recorder δ α → (δ → Point → Prop) → Prop
  | stepName : Procedure stepName fun _ _ => True
  | bracketStep : Procedure bracketStep fun _ p => nextToken p.ahead = .leftBracket
  | steps : Procedure steps fun _ _ => True
  | path : Procedure path fun draft _ => draft = []
  | literal {δ : Type} : Procedure (literal : Recorder δ Literal) fun _ _ => True
  | operandBody : Procedure operandBody fun _ _ => True
  | operand {δ : Type} : Procedure (operand : Recorder δ Operand) fun _ _ => True
  | comma {δ : Type} (form : Form) : Procedure (comma form : Recorder δ Unit) fun _ _ => True
  | arguments (form : Form) : Procedure arguments fun draft _ => draft = ⟨form, []⟩
  | assertionBody : Procedure assertionBody fun draft _ => draft = {}
  | assertion {δ : Type} : Procedure (assertion : Recorder δ Assertion) fun _ _ => True
  | part (frames : Nat) : Procedure (part frames) fun _ p =>
      1 ≤ frames ∧ maxNesting + 2 ≤ frames + p.scope.length
  | conjunction (frames : Nat) : Procedure (conjunction (part frames)) fun _ p =>
      1 ≤ frames ∧ maxNesting + 2 ≤ frames + p.scope.length
  | disjunction (frames : Nat) : Procedure (disjunction (part frames)) fun _ p =>
      1 ≤ frames ∧ maxNesting + 2 ≤ frames + p.scope.length
  | statement (frames : Nat) : Procedure (statement frames) fun _ p =>
      maxNesting + 1 ≤ frames ∧ p.scope.length = 1
  | declarationBody : Procedure declarationBody fun draft p =>
      draft = {} ∧ nextToken p.ahead = .letWord
  | declaration (late : Bool) : Procedure (declaration late) fun _ p =>
      nextToken p.ahead = .letWord
  | synchronize {δ : Type} : Procedure (synchronize : Recorder δ Unit) fun _ _ => True
  | expect {δ : Type} (here : Token) (expected : Expected) :
      Procedure (expect here expected : Recorder δ Unit) fun _ _ => here ≠ .endOfInput
  | unexpected {δ α : Type} (expected : Expected) :
      Procedure (unexpected expected : Recorder δ α) fun _ _ => True

/-- Wherever a procedure is called, and whether it succeeds or not, the open constructs are the same
again behind it, and it passed tokens before the end of input only. -/
theorem Procedure.moves {δ α : Type} {r : Recorder δ α} {called : δ → Point → Prop}
    (procedure : Procedure r called) {d : δ} (opened : t.now.Opened) (here : called d t.now) :
    ∃ names errors, Moves t names errors (r d t).trace := by
  cases procedure with
  | stepName => exact (mirrors_stepName d opened).moves
  | bracketStep =>
    have more : nextToken t.now.ahead ≠ .endOfInput := by rw [here]; simp
    have mirrors : Mirrors (do Parser.advance; Parser.keyStep) Recorder.bracketStep _ d t :=
      mirrors_advance_bind more fun _ _ _ => mirrors_stepKey d
    exact (mirrors opened).moves
  | steps => exact (mirrors_steps (fun _ => .operand) opened).moves
  | path =>
    obtain rfl := here
    exact (mirrors_path (fun _ => .operand) opened).moves
  | literal => exact (mirrors_literal opened).moves
  | operandBody => exact (mirrors_operandBody opened).moves
  | operand => exact (mirrors_operand opened).moves
  | comma form => exact (mirrors_comma form opened).moves
  | arguments form =>
    obtain rfl := here
    exact (mirrors_arguments form (fun _ => .operand) opened).moves
  | assertionBody =>
    obtain rfl := here
    exact (mirrors_assertionBody opened).moves
  | assertion => exact (mirrors_assertion opened).moves
  | part frames => exact (mirrors_part here.1 here.2 t rfl rfl opened).moves
  | conjunction frames =>
    exact (mirrors_conjunction (mirrors_part here.1 here.2) t rfl rfl opened).moves
  | disjunction frames =>
    exact (mirrors_disjunction (mirrors_part here.1 here.2) t rfl rfl opened).moves
  | statement frames => exact (mirrors_statement here.1 here.2 opened).moves
  | declarationBody =>
    obtain ⟨rfl, start⟩ := here
    exact (mirrors_declarationBody start opened).moves
  | declaration late => exact (declares late opened here).moves
  | synchronize => exact (mirrors_synchronize opened).moves
  | expect _ _ => exact (mirrors_expect here opened).moves
  | unexpected _ => exact (mirrors_unexpected (C := .plain d) ⟨rfl, rfl⟩ opened).moves

/-! ### Open constructs -/

/-- A node of a tree with those that were around it at an earlier point: the nearest name is that of
the innermost of them that had a name at that point. -/
structure Enclosed (tree : SyntaxTree) (before : Point) (node : Nat) (scope : List Nat) : Prop
    extends Lineage tree node scope where
  nearest : tree.nearestName? node =
    (scope.find? fun id => (before.tree.name? id).isSome).bind tree.name?

theorem Recording.enclosed {p before : Point} {past : List Point} {e : SyntaxError}
    {scope : List Nat} (recording : Recording e before scope (p :: past))
    (run : Run (p :: past)) : Enclosed p.tree before e.node scope := by
  obtain ⟨member, innermost, inside⟩ := recording.linked run
  have grows : before.tree.Grows p.tree := by
    rcases List.mem_cons.mp member with rfl | member
    · exact .refl _
    · exact run.grows before member
  have linked := inside.grows grows
  have ordered := (run.points_scoped p List.mem_cons_self).ordered
  obtain ⟨outer, rfl⟩ : ∃ outer, scope = e.node :: outer := List.head?_eq_some_iff.mp innermost
  refine ⟨linked.lineage ordered, ?_⟩
  rw [linked.nearestName? ordered]
  congr 1
  exact List.find?_congr fun id member => grows.isSome_name? (inside.lt_size member)

/-- At every point of a parse the open constructs are within one another and the nodes in order, and
every procedure leaves the open constructs as they were. Each error is at a node whose ancestors lead
to the model, and its token is the innermost construct with a name that was open, or had just been
completed, when it was recorded. -/
theorem parse_scoped (lexemes : List Lexeme) :
    let ending := parse (maxNesting + 1) lexemes
    let points := ending.trace.points
    let final := ending.trace.now
    (∀ p ∈ points, p.Scoped) ∧
      (∀ {δ α : Type} (r : Recorder δ α) (called : δ → Point → Prop), Procedure r called →
        ∀ d t, t.now.Opened → called d t.now → (r d t).trace.now.scope = t.now.scope) ∧
      final.scope = [] ∧
      (∀ e ∈ final.errors, ∃ before scope,
        Recording e before scope points ∧ Enclosed final.tree before e.node scope) ∧
      ending.specification.mapError SyntaxErrors.located =
        (Specification.ofLexemes lexemes).mapError SyntaxErrors.located ∧
      ∀ errors, Specification.ofLexemes lexemes = .error errors →
        ∀ e ∈ errors.errors, ∃ scope, Lineage errors.tree e.node scope := by
  intro ending points final
  have parsed := parse_parsed (Nat.le_refl (maxNesting + 1)) lexemes
  refine ⟨parsed.run.points_scoped, ?_, parsed.scope, fun e member => ?_, parsed.specification_eq, ?_⟩
  · intro δ α r called procedure d t opened here
    obtain ⟨names, errors, moves⟩ := procedure.moves opened here
    exact moves.scope
  · obtain ⟨before, scope, recording⟩ := parsed.run.recording e member
    exact ⟨before, scope, recording, recording.enclosed parsed.run⟩
  · exact fun errors failed e member => lineage_of_failed failed member

/-- A late declaration, which is reported once it is closed, and a bracket that stays open. -/
theorem parse_scoped_unclosed :
    let lexemes := lex "exists(a); let b = $.c; exists(d[1"
    let ending := parse (maxNesting + 1) lexemes
    let final := ending.trace.now
    final.errors.map (fun e => (e.message, e.node, final.tree.nearestName? e.node)) =
        [("declarations must precede assertions", 4, some "let b = c"),
          ("expected ']', found end of input", 7, some "[1]")] ∧
      (∀ e ∈ final.errors, ∃ before scope,
        Recording e before scope ending.trace.points ∧ Enclosed final.tree before e.node scope) ∧
      (statement (maxNesting + 1) () (opening lexemes)).trace.now.scope = [0] := by
  intro lexemes ending final
  refine ⟨by decide +kernel, ?_⟩
  -- From here on the source stays closed, or unification would parse it.
  clear_value lexemes
  obtain ⟨_, same, _, enclosed, _⟩ := parse_scoped lexemes
  have kept := same (statement (maxNesting + 1)) _ (.statement (maxNesting + 1)) ()
    (opening lexemes) (opening_opened lexemes) ⟨Nat.le_refl _, rfl⟩
  exact ⟨enclosed, kept⟩

/-! ### Tokens and depth -/

/-- A parse ends at the end of input, whatever room there is for its recursion beyond one more than
the greatest nesting: no loop and no recursion reaches its limit, each round of the outer loop passes
a token at least, no procedure passes the end of input or takes a token back, and there are no more
errors than tokens, or one if there are none. -/
theorem parse_bounded {frames : Nat} (enough : maxNesting + 1 ≤ frames) (lexemes : List Lexeme) :
    let ending := parse frames lexemes
    let points := ending.trace.points
    let final := ending.trace.now
    ending.result = some () ∧ nextToken final.ahead = .endOfInput ∧
      (∀ p ∈ points, p.exhausted = false ∧ p.Shallow) ∧
      (∀ found t, t.now.Opened → t.now.scope.length = 1 → nextToken t.now.ahead ≠ .endOfInput →
        ∃ found' t' ts, round frames found t = ⟨some (), found', t'⟩ ∧
          t'.now.scope = t.now.scope ∧ ts ≠ [] ∧ Spans t.now.ahead ts t'.now.ahead ∧
          t'.now.errors.length ≤ t.now.errors.length + 1) ∧
      (∀ {δ α : Type} (r : Recorder δ α) (called : δ → Point → Prop), Procedure r called →
        ∀ d t, t.now.Opened → called d t.now →
          ∃ ts, Spans t.now.ahead ts (r d t).trace.now.ahead) ∧
      (points.Pairwise fun later earlier => later.ahead.length ≤ earlier.ahead.length) ∧
      (if sourceTokens lexemes = [] then final.errors.length = 1
        else final.errors.length ≤ (sourceTokens lexemes).length) ∧
      ending.specification.mapError SyntaxErrors.located =
        (Specification.ofLexemes lexemes).mapError SyntaxErrors.located := by
  intro ending points final
  have parsed := parse_parsed enough lexemes
  refine ⟨parsed.result, parsed.ended, fun p member => ?_, ?_, ?_, parsed.run.ahead_length_le,
    parsed.errors_length_le, parsed.specification_eq⟩
  · exact ⟨parsed.run.exhausted p member, parsed.run.points_shallow p member⟩
  · intro found t opened single goes
    obtain ⟨found', t', same, advances⟩ := round_advances enough found opened single goes
    obtain ⟨names, errors, few, moves⟩ := advances.moves
    obtain ⟨ts, spans⟩ := moves.spans
    refine ⟨found', t', ts, same, moves.scope, ?_, spans, ?_⟩
    · rintro rfl
      have shorter := advances.shorter
      rw [Spans.nil_iff.mp spans] at shorter
      exact Nat.lt_irrefl _ shorter
    · rw [moves.errors, List.length_append]
      omega
  · intro δ α r called procedure d t opened here
    obtain ⟨names, errors, moves⟩ := procedure.moves opened here
    exact moves.spans

theorem parse_bounded_unclosed :
    let lexemes := lex "exists(a); let b = $.c; exists(d[1"
    maxNesting + 1 ≤ maxNesting + 1 ∧ (sourceTokens lexemes).length = 17 ∧
      (parse (maxNesting + 1) lexemes).trace.now.errors.length ≤ 17 ∧
      (∀ p ∈ (parse (maxNesting + 1) lexemes).trace.points, p.exhausted = false) ∧
      ∃ found t ts, round (maxNesting + 1) {} (opening lexemes) = ⟨some (), found, t⟩ ∧ ts ≠ [] ∧
        Spans lexemes ts t.now.ahead := by
  intro lexemes
  have tokens : (sourceTokens lexemes).length = 17 := by decide +kernel
  have goes : nextToken (opening lexemes).now.ahead ≠ .endOfInput := by decide +kernel
  clear_value lexemes
  have more : sourceTokens lexemes ≠ [] := List.ne_nil_of_length_pos (by omega)
  obtain ⟨_, _, limits, rounds, _, _, few, _⟩ := parse_bounded (Nat.le_refl (maxNesting + 1)) lexemes
  rw [if_neg more] at few
  obtain ⟨found, t, ts, first, _, passed, spans, _⟩ :=
    rounds {} (opening lexemes) (opening_opened lexemes) rfl goes
  exact ⟨Nat.le_refl _, tokens, Nat.le_trans few (Nat.le_of_eq tokens),
    fun p member => (limits p member).1, found, t, ts, first, passed, spans⟩

end Recorder

end Attest
