import Attest.Proofs.Syntax.Recovery
import Attest.Proofs.Syntax.Statements
import Mathlib.Data.List.Forall2
/-!
# Whole parses

The loop over the statements of a source beside the reading of the source, round by round.
-/

namespace Attest

theorem Spans.suffix {ahead rest : List Lexeme} {ts : List Token} (spans : Spans ahead ts rest) :
    rest <:+ ahead := by
  induction ts generalizing ahead with
  | nil => exact nil_iff.mp spans ▸ List.suffix_refl _
  | cons t ts ih =>
    obtain ⟨_, _, _, mid, rfl, tail⟩ := cons_iff.mp spans
    exact (ih tail).trans (List.suffix_cons _ _)

theorem SyntaxTree.Chained.kept {tree tree' : SyntaxTree} {id : Nat} {around : List Construct}
    (chained : Chained tree id around) (kept : ∀ id < tree.size, tree'.get? id = tree.get? id) :
    Chained tree' id around := by
  induction chained with
  | root here => exact .root ((kept _ (lt_size_of_get? here)).trans here)
  | inner here earlier _ ih => exact .inner ((kept _ (lt_size_of_get? here)).trans here) earlier ih

theorem Parser.recover_eq (ahead : List Lexeme) :
    recover ahead =
      match nextToken ahead with
      | .endOfInput | .letWord => ahead
      | .semicolon => ahead.tail
      | _ => recover ahead.tail := by
  cases ahead with
  | nil => rfl
  | cons lexeme ahead => rw [recover]; rfl

namespace Reading

variable {r : Reading} {ahead : List Lexeme}

theorem round_of_starts (here : StartsStatement (nextToken ahead)) :
    r.round ahead =
      match Parser.statement r.declared ahead with
      | .ok (tree, rest) => (r.assert tree, rest)
      | .error failure => (r.fail failure, Parser.recover failure.rest) := by
  unfold round
  generalize nextToken ahead = first at here
  cases first with
  | endOfInput => exact absurd rfl here.1
  | semicolon => exact absurd rfl here.2.1
  | letWord => exact absurd rfl here.2.2
  | _ => rfl

end Reading

namespace Recorder

open SyntaxTree

variable {t t' : Trace} {names : List String} {errors : List SyntaxError}

/-! ### The way to the next statement -/

theorem mirrors_synchronizeWithin {δ : Type} {d : δ} {limit : Nat}
    (enough : t.now.ahead.length < limit) :
    Mirrors (fun ahead => .ok ((), Parser.recover ahead)) (synchronizeWithin limit)
      (.plain d) d t := by
  induction limit generalizing t with
  | zero => exact absurd enough (Nat.not_lt_zero _)
  | succ limit ih =>
    have place := Parser.recover_eq t.now.ahead
    have mirrors {q : Parser Unit} (same : q t.now.ahead = .ok ((), Parser.recover t.now.ahead))
        (next : Mirrors q (synchronizeWithin (limit + 1)) (.plain d) d t) :
        Mirrors (fun ahead => .ok ((), Parser.recover ahead)) (synchronizeWithin (limit + 1))
          (.plain d) d t := Mirrors.of_eq same.symm next
    cases here : nextToken t.now.ahead with
    | endOfInput | letWord =>
      rw [here] at place
      refine mirrors (q := pure ()) (by rw [place]; rfl) (mirrors_here_bind ?_)
      rw [here]
      exact mirrors_pure ⟨rfl, rfl⟩ rfl
    | semicolon =>
      rw [here] at place
      refine mirrors (q := Parser.advance) (by rw [place]; rfl) (mirrors_here_bind ?_)
      rw [here]
      exact mirrors_advance (by simp [here])
    | _ =>
      have more : nextToken t.now.ahead ≠ .endOfInput := by simp [here]
      have less := length_tail_lt more
      rw [here] at place
      refine mirrors (q := do Parser.advance; fun ahead => .ok ((), Parser.recover ahead))
        (by rw [place]; rfl) (mirrors_here_bind ?_)
      rw [here]
      refine mirrors_advance_bind more fun t' _ ahead => ih ?_
      rw [ahead]
      omega

theorem mirrors_synchronize {δ : Type} {d : δ} :
    Mirrors (fun ahead => .ok ((), Parser.recover ahead)) synchronize (.plain d) d t :=
  mirrors_now_bind (mirrors_synchronizeWithin (Nat.lt_succ_self _))

/-! ### Declarations -/

/-- What is recorded of a late declaration that begins at a trace. -/
def lateError (t : Trace) : SyntaxError :=
  ⟨SyntaxFault.lateDeclaration.message, nextLine t.now.ahead, t.now.tree.size⟩

/-- How a declaration ends: with a late declaration recorded after it was closed, or as a failure
ends. -/
inductive Declares (late : Bool) (t : Trace) :
    Except Failure (Declaration × List Lexeme) → Ending Unit Declaration → Prop
  | ok {d : Declaration} {t' : Trace} {errors : List SyntaxError}
      (moves : Moves t [d.name] errors t')
      (reported : errors = if late then [lateError t] else [])
      (node : t'.now.tree.get? t.now.tree.size =
        some ⟨t.now.scope.head?, .declaration ⟨some d.name, d.path, true⟩⟩) :
      Declares late t (.ok (d, t'.now.ahead)) ⟨some d, (), t'⟩
  | error {f : Failure} {ending : Ending Unit Declaration}
      (failed : Agrees (.plain ()) t (.error f) ending) : Declares late t (.error f) ending

theorem Declares.moves {late : Bool} {result : Except Failure (Declaration × List Lexeme)}
    {ending : Ending Unit Declaration} (declares : Declares late t result ending) :
    ∃ names errors, Moves t names errors ending.trace := by
  cases declares with
  | ok moves => exact ⟨_, _, moves⟩
  | error failed => exact failed.moves

theorem Moves.late {e : SyntaxError} {last : Point} {past : List Point}
    (before : t.past = last :: past) (completed : last.scope = e.node :: t.now.scope) :
    Moves t [] [e] (t.step (.record e)) where
  scope := rfl
  kept _ _ := rfl
  spans := ⟨[], .refl _⟩
  declared := (List.append_nil _).symm
  errors := rfl
  exhausted := rfl
  run run := by
    unfold Trace.points at run ⊢
    rw [before] at run
    simp only [Trace.step, Trace.points, before]
    exact .late e run completed

/-- The construct of a declaration as it is closed. -/
def closedDeclaration (ending : Option Declaration × DeclarationDraft) : Construct :=
  .declaration { ending.2 with complete := ending.1.isSome }

theorem declaration_eq (late : Bool) :
    declaration late () t =
      (let ending := declarationBody {} (t.step (.enter (.declaration {})))
      (do
        let d ← propagate ending.result
        if late then
          errorAt t.now.tree.size (nextLine t.now.ahead) SyntaxFault.lateDeclaration.message
        return d : Recorder Unit Declaration) ()
        (ending.trace.step
          (.leave t.now.tree.size (closedDeclaration (ending.result, ending.draft))))) := rfl

theorem declares (late : Bool) (opened : t.now.Opened)
    (here : nextToken t.now.ahead = .letWord) :
    Declares late t (Parser.declaration t.now.ahead) (declaration late () t) := by
  have begun := mirrors_declarationBody (t := t.step (.enter (.declaration {}))) here
    (opened.enter _)
  have agrees := begun.enclose closedDeclaration opened (fun _ _ shown => ⟨[], shown⟩)
    (fun _ => .declaration _ _) (fun nests => nests.elim)
  rw [declaration_eq]
  change Agrees _ _ (Parser.declaration t.now.ahead) _ at begun
  change Agrees _ _ (Parser.declaration t.now.ahead) _ at agrees
  generalize Parser.declaration t.now.ahead = result,
    declarationBody {} (t.step (.enter (.declaration {}))) = ending at begun agrees
  cases begun with
  | @ok _ x _ t₁ moves kept =>
    obtain ⟨rfl, rfl⟩ := kept
    obtain ⟨top, innermost⟩ := opened.exists_innermost
    let whole : Construct := .declaration ⟨some x.name, x.path, true⟩
    have closed : Moves t [x.name] [] (t₁.step (.leave t.now.tree.size whole)) :=
      moves.enclose innermost (.declaration _ _) fun nests => nests.elim
    have node := moves.get?_closed whole
    cases late with
    | false => exact .ok closed rfl node
    | true =>
      have inner : t₁.now.scope = t.now.tree.size :: t.now.scope := moves.scope
      have outer : (t₁.now.leave t.now.tree.size whole).scope = t.now.scope := closed.scope
      have completed : t₁.now.scope =
          (lateError t).node :: (t₁.now.leave t.now.tree.size whole).scope := by
        rw [outer]
        exact inner
      have late : Moves t [x.name] [lateError t] _ := closed.trans (.late rfl completed)
      exact .ok late rfl node
  | error =>
    cases agrees with
    | error moves same innermost hangs trail lost =>
      exact .error (.error moves same innermost hangs trail ⟨(List.cons.inj lost).2, rfl⟩)

/-! ### Errors beside failures -/

/-- The error is the failure, whose trail leads from the node to the model. -/
structure Stands (tree : SyntaxTree) (e : SyntaxError) (f : Failure) : Prop where
  message : e.message = f.fault.message
  line : e.line = f.line
  chained : Chained tree e.node (f.trail ++ [.model])

theorem Stands.kept {tree tree' : SyntaxTree} {e : SyntaxError} {f : Failure}
    (stands : Stands tree e f) (kept : ∀ id < tree.size, tree'.get? id = tree.get? id) :
    Stands tree' e f :=
  ⟨stands.message, stands.line, stands.chained.kept kept⟩

theorem isEmpty_of_stand {tree : SyntaxTree} {failures : List Failure}
    (stand : List.Forall₂ (Stands tree) errors failures) : errors.isEmpty = failures.isEmpty := by
  cases stand <;> rfl

/-- A recorder outside of all statements has found what a reading has. -/
structure Alike (r : Reading) (found : Found) (t : Trace) : Prop where
  scope : t.now.scope = [0]
  root : t.now.tree.get? 0 = some ⟨none, .model⟩
  declarations : found.declarations = r.declarations
  statements : found.statements = r.statements
  declared : t.now.declared = r.declared
  failures : List.Forall₂ (Stands t.now.tree) t.now.errors r.failures

namespace Alike

variable {r : Reading} {found : Found}

theorem moves (alike : Alike r found t) (moves : Moves t names errors t')
    {failures : List Failure} (new : List.Forall₂ (Stands t'.now.tree) errors failures) :
    t'.now.scope = [0] ∧ t'.now.tree.get? 0 = some ⟨none, .model⟩ ∧
      t'.now.declared = r.declared ++ names ∧
      List.Forall₂ (Stands t'.now.tree) t'.now.errors (r.failures ++ failures) := by
  refine ⟨moves.scope.trans alike.scope, (moves.kept 0 (lt_size_of_get? alike.root)).trans alike.root,
    alike.declared ▸ moves.declared, ?_⟩
  rw [moves.errors]
  have old := alike.failures.imp fun e f stands => Stands.kept stands moves.kept
  exact List.rel_append old new

theorem fail (alike : Alike r found t) {e : SyntaxError} {f : Failure}
    (moves : Moves t [] [e] t') (stands : Stands t'.now.tree e f) :
    Alike (r.fail f) found t' := by
  obtain ⟨scope, root, declared, failures⟩ := alike.moves moves (.cons stands .nil)
  rw [List.append_nil] at declared
  exact ⟨scope, root, alike.declarations, alike.statements, declared, failures⟩

theorem assert (alike : Alike r found t) (moves : Moves t [] [] t') (tree : AssertionTree) :
    Alike (r.assert tree) (found.assert tree) t' := by
  obtain ⟨scope, root, declared, failures⟩ := alike.moves moves .nil
  rw [List.append_nil] at declared failures
  exact ⟨scope, root, alike.declarations, congrArg (· ++ [tree]) alike.statements, declared,
    failures⟩

theorem skip (alike : Alike r found t) (moves : Moves t [] [] t') : Alike r found t' := by
  obtain ⟨scope, root, declared, failures⟩ := alike.moves moves .nil
  rw [List.append_nil] at declared failures
  exact ⟨scope, root, alike.declarations, alike.statements, declared, failures⟩

theorem declare (alike : Alike r found t) {d : Declaration} {line : Nat} {rest : List Lexeme}
    (moves : Moves t [d.name] errors t')
    (late : List.Forall₂ (Stands t'.now.tree) errors
      (if r.statements.isEmpty then [] else
        [⟨.lateDeclaration, line, [.declaration ⟨some d.name, d.path, true⟩], rest⟩])) :
    Alike (r.declare line d rest) (found.declare d) t' := by
  obtain ⟨scope, root, declared, failures⟩ := alike.moves moves late
  refine ⟨scope, root, congrArg (· ++ [d]) alike.declarations, alike.statements, ?_, failures⟩
  rw [declared, Reading.declared_declare]

end Alike

/-! ### Rounds -/

theorem synchronize_eq {δ : Type} {d : δ} (opened : t.now.Opened) :
    ∃ t', synchronize d t = ⟨some (), d, t'⟩ ∧ Moves t [] [] t' ∧
      t'.now.ahead = Parser.recover t.now.ahead := by
  have agrees := mirrors_synchronize (d := d) opened
  change Agrees _ _ (.ok ((), Parser.recover t.now.ahead)) _ at agrees
  generalize Parser.recover t.now.ahead = rest, synchronize d t = ending at agrees ⊢
  cases agrees with
  | ok moves kept =>
    obtain ⟨rfl, rfl⟩ := kept
    exact ⟨_, rfl, moves, rfl⟩

/-- What a round does: it passes a token at least and records one error at most, and it finds what
a reading finds in its round. -/
structure Advances (found : Found) (t : Trace) (found' : Found) (t' : Trace) : Prop where
  moves : ∃ names errors, errors.length ≤ 1 ∧ Moves t names errors t'
  shorter : t'.now.ahead.length < t.now.ahead.length
  alike : ∀ r, Alike r found t →
    Alike (r.round t.now.ahead).1 found' t' ∧ t'.now.ahead = (r.round t.now.ahead).2

theorem Agrees.stopped {α β δ : Type} {C : Contract α β δ} {f : Failure} {ending : Ending δ β}
    (failed : Agrees C t (.error f) ending) :
    ending.trace.now.ahead = f.rest ∧ f.rest <:+ t.now.ahead := by
  cases failed with
  | error moves same =>
    obtain ⟨ts, spans⟩ := moves.spans
    exact ⟨same.2.2, same.2.2 ▸ spans.suffix⟩

/-- After a failure the reading goes on where the next statement may begin. -/
theorem advances_of_failed {α : Type} {f : Failure} {ending : Ending Unit α} (found : Found)
    (add : Found → α → Found) (opened : t.now.Opened)
    (failed : Agrees (.plain ()) t (.error f) ending)
    (shorter : (Parser.recover f.rest).length < t.now.ahead.length)
    (round : ∀ r, Alike r found t → r.round t.now.ahead = (r.fail f, Parser.recover f.rest)) :
    ∃ found' t', resume add ending.result found ending.trace = ⟨some (), found', t'⟩ ∧
      Advances found t found' t' := by
  cases failed with
  | @error _ e _ t₁ top hang rest moves same innermost hangs trail lost =>
    obtain ⟨message, line, place⟩ := same
    obtain ⟨rfl, -⟩ := lost
    obtain ⟨t', next, further, place'⟩ := synchronize_eq (d := found) (moves.opened opened)
    rw [place] at place'
    have both : Moves t [] [e] t' := moves.trans further
    refine ⟨found, t', next, ⟨[], [e], Nat.le_refl 1, both⟩, place' ▸ shorter, fun r alike => ?_⟩
    rw [round r alike]
    refine ⟨alike.fail both ⟨message, line, ?_⟩, place'⟩
    obtain rfl : top = 0 := by
      rw [alike.scope] at innermost
      exact (Option.some.inj innermost).symm
    have root := (moves.kept 0 (lt_size_of_get? alike.root)).trans alike.root
    rw [trail, List.append_nil]
    exact (hangs.chained (.root root)).kept further.kept

theorem declaration_shorter (late : Bool) (opened : t.now.Opened)
    (here : nextToken t.now.ahead = .letWord) :
    (declaration late () t).trace.now.ahead.length < t.now.ahead.length := by
  have more : nextToken t.now.ahead ≠ .endOfInput := by simp [here]
  let begun : Trace := (t.step (.enter (.declaration {}))).step Point.advance
  have opened' : begun.now.Opened :=
    (Moves.advance (t := t.step (.enter (.declaration {}))) more).opened (opened.enter _)
  have agrees := mirrors_afterLet opened'
  have body : declarationBody {} (t.step (.enter (.declaration {}))) = afterLet {} begun := rfl
  have place : (declaration late () t).trace.now.ahead = (afterLet {} begun).trace.now.ahead := by
    rw [declaration_eq, body]
    rcases afterLet {} begun with ⟨_ | d, draft, t'⟩
    · rfl
    · cases late <;> rfl
  have less := length_tail_lt more
  obtain ⟨_, _, moves⟩ := agrees.moves
  rw [place]
  exact Nat.lt_of_le_of_lt moves.length_le less

theorem declare_advances (found : Found) (opened : t.now.Opened)
    (here : nextToken t.now.ahead = .letWord) :
    ∃ found' t', declare found t = ⟨some (), found', t'⟩ ∧ Advances found t found' t' := by
  have shorter := declaration_shorter (!found.statements.isEmpty) opened here
  have declares := declares (!found.statements.isEmpty) opened here
  have same : declare found t =
      (let ending := declaration (!found.statements.isEmpty) () t
      resume Found.declare ending.result found ending.trace) := rfl
  rw [same]
  generalize read : Parser.declaration t.now.ahead = result,
    declaration (!found.statements.isEmpty) () t = ending at declares shorter
  cases declares with
  | @ok d t' errors moves reported node =>
    refine ⟨found.declare d, t', rfl,
      ⟨[d.name], errors, ?_, moves⟩, shorter, fun r alike => ?_⟩
    · rw [reported]
      split <;> simp
    · unfold Reading.round
      rw [here, read]
      have late : found.statements.isEmpty = r.statements.isEmpty := by rw [alike.statements]
      rw [late] at reported
      refine ⟨alike.declare moves ?_, rfl⟩
      rw [reported]
      cases r.statements.isEmpty with
      | true => exact .nil
      | false =>
        rw [alike.scope] at node
        have root := (moves.kept 0 (lt_size_of_get? alike.root)).trans alike.root
        have chained := Chained.inner node (lt_size_of_get? alike.root) (.root root)
        exact .cons ⟨rfl, rfl, chained⟩ .nil
  | @error f _ failed =>
    rw [failed.stopped.1] at shorter
    refine advances_of_failed found _ opened failed ?_ fun r _ => ?_
    · exact Nat.lt_of_le_of_lt (Parser.recover_suffix f.rest).length_le shorter
    · unfold Reading.round
      rw [here, read]

theorem assert_advances {frames : Nat} (enough : maxNesting + 1 ≤ frames) (found : Found)
    (opened : t.now.Opened) (single : t.now.scope.length = 1)
    (here : StartsStatement (nextToken t.now.ahead)) :
    ∃ found' t', assert frames found t = ⟨some (), found', t'⟩ ∧ Advances found t found' t' := by
  have noEnd := here.1
  have noLet := here.2.2
  have agrees := mirrors_statement enough single opened
  have same : assert frames found t =
      (let ending := statement frames () t
      resume Found.assert ending.result found ending.trace) := rfl
  rw [same]
  generalize read : Parser.statement t.now.declared t.now.ahead = result,
    statement frames () t = ending at agrees
  cases result with
  | ok x =>
    cases agrees with
    | @ok _ tree _ t' moves kept =>
      obtain ⟨rfl, -⟩ := kept
      refine ⟨found.assert tree, t', rfl, ⟨[], [], Nat.zero_le 1, moves⟩, ?_, fun r alike => ?_⟩
      · exact Parser.length_lt_of_statement noEnd read
      · rw [alike.declared] at read
        rw [Reading.round_of_starts here, read]
        exact ⟨alike.assert moves tree, rfl⟩
  | error f =>
    refine advances_of_failed found _ opened agrees ?_ fun r like => ?_
    · exact Parser.length_recover_lt agrees.stopped.2 (Reading.ne_nil_of_goes noEnd) noEnd noLet
    · rw [like.declared] at read
      rw [Reading.round_of_starts here, read]

theorem round_advances {frames : Nat} (enough : maxNesting + 1 ≤ frames) (found : Found)
    (opened : t.now.Opened) (single : t.now.scope.length = 1)
    (goes : nextToken t.now.ahead ≠ .endOfInput) :
    ∃ found' t', round frames found t = ⟨some (), found', t'⟩ ∧ Advances found t found' t' := by
  rw [round, token_bind_eq]
  cases here : nextToken t.now.ahead with
  | endOfInput => exact absurd here goes
  | semicolon =>
    have moves := Moves.advance goes
    refine ⟨found, _, rfl, ⟨[], [], Nat.zero_le 1, moves⟩, length_tail_lt goes, fun r alike => ?_⟩
    unfold Reading.round
    rw [here]
    exact ⟨alike.skip moves, rfl⟩
  | letWord => exact declare_advances found opened here
  | _ =>
    exact assert_advances enough found opened single (by rw [here]; exact ⟨by simp, by simp, by simp⟩)

/-- All rounds, of which there are no more than tokens. -/
theorem rounds_advance {frames limit : Nat} (enough : maxNesting + 1 ≤ frames) (found : Found)
    (opened : t.now.Opened) (single : t.now.scope.length = 1)
    (fits : t.now.ahead.length < limit) :
    ∃ found' t' names errors, rounds frames limit found t = ⟨some (), found', t'⟩ ∧
      Moves t names errors t' ∧ nextToken t'.now.ahead = .endOfInput ∧
      errors.length + t'.now.ahead.length ≤ t.now.ahead.length ∧
      ∀ r other, t.now.ahead.length ≤ other → Alike r found t →
        Alike (Reading.run other r t.now.ahead).1 found' t' ∧
          t'.now.ahead = (Reading.run other r t.now.ahead).2 := by
  induction limit generalizing found t with
  | zero => exact absurd fits (Nat.not_lt_zero _)
  | succ limit ih =>
    have same : rounds frames (limit + 1) found t =
        (if nextToken t.now.ahead = .endOfInput then return ()
        else do round frames; rounds frames limit : Recorder Found Unit) found t := rfl
    rw [same]
    by_cases last : nextToken t.now.ahead = .endOfInput
    · rw [if_pos last]
      refine ⟨found, t, [], [], rfl, .refl t, last, by simp, fun r other _ alike => ?_⟩
      rw [Reading.run_end last]
      exact ⟨alike, rfl⟩
    · rw [if_neg last]
      obtain ⟨found₁, t₁, next, advances⟩ := round_advances enough found opened single last
      obtain ⟨names₁, errors₁, few, moves₁⟩ := advances.moves
      have shorter := advances.shorter
      obtain ⟨found', t', names, errors, rest, moves, ended, fewer, alike⟩ :=
        ih found₁ (moves₁.opened opened) (moves₁.scope ▸ single) (by omega)
      refine ⟨found', t', _, _, ?_, moves₁.trans moves, ended, ?_, fun r other fits' like => ?_⟩
      · rw [bind_eq_match, next]
        exact rest
      · rw [List.length_append]
        omega
      · obtain ⟨other, rfl⟩ : ∃ n, other = n + 1 := ⟨other - 1, by omega⟩
        obtain ⟨like₁, place₁⟩ := advances.alike r like
        rw [Reading.run_succ last, ← place₁]
        exact alike _ other (by omega) like₁

/-! ### Sources -/

/-- The parse of a source with the model open. -/
def opening (lexemes : List Lexeme) : Trace :=
  Trace.step { now := { ahead := lexemes } } (.enter .model)

theorem opening_opened (lexemes : List Lexeme) : (opening lexemes).now.Opened := by
  refine ⟨List.cons_ne_nil _ _, fun id member => ?_⟩
  rw [List.mem_singleton.mp member]
  exact Nat.zero_lt_one

/-- How a parse of a source ends. -/
structure Parsed (lexemes : List Lexeme) (ending : Ending Found Unit) : Prop where
  result : ending.result = some ()
  scope : ending.trace.now.scope = []
  run : Run ending.trace.points
  ended : nextToken ending.trace.now.ahead = .endOfInput
  spans : ∃ ts, Spans lexemes ts ending.trace.now.ahead
  declarations : ending.draft.declarations = (Reading.ofLexemes lexemes).declarations
  statements : ending.draft.statements = (Reading.ofLexemes lexemes).statements
  failures : List.Forall₂ (Stands ending.trace.now.tree) ending.trace.now.errors
    (Reading.ofLexemes lexemes).failures
  few : ending.trace.now.errors.length ≤ max 1 (sourceTokens lexemes).length

/-- The model is closed when everything was read. -/
theorem Alike.parsed {lexemes : List Lexeme} {found : Found}
    (alike : Alike (Reading.ofLexemes lexemes) found t)
    (moves : Moves (opening lexemes) names errors t)
    (ended : nextToken t.now.ahead = .endOfInput)
    (few : t.now.errors.length ≤ max 1 (sourceTokens lexemes).length) :
    Parsed lexemes ⟨some (), found, t.step (.leave 0 .model)⟩ := by
  have head : t.now.scope.head? = some 0 := by rw [alike.scope]; rfl
  have kept : ∀ id < t.now.tree.size, (t.now.tree.set 0 .model).get? id = t.now.tree.get? id := by
    intro id _
    by_cases first : id = 0
    · rw [first, get?_set_self, alike.root]
      rfl
    · exact get?_set_ne first
  refine ⟨rfl, ?_, ?_, ended, moves.spans, alike.declarations, alike.statements, ?_, few⟩
  · exact (Point.leave_scope head).trans (by rw [alike.scope]; rfl)
  · exact .leave .model (moves.run (.opened lexemes)) head alike.root (.same .model)
  · exact alike.failures.imp fun e f stands => stands.kept kept

/-- What is recorded of a source with neither an assertion nor an error. -/
theorem requireAssertion_advances {r : Reading} {found : Found} (alike : Alike r found t) :
    ∃ t' errors, requireAssertion found t = ⟨some (), found, t'⟩ ∧ Moves t [] errors t' ∧
      t'.now.ahead = t.now.ahead ∧ (errors = [] ∨ t.now.errors = [] ∧ errors.length = 1) ∧
      Alike (if r.statements.isEmpty && r.failures.isEmpty then
        r.fail ⟨.noAssertion, nextLine t.now.ahead, [], t.now.ahead⟩ else r) found t' := by
  have same : requireAssertion found t =
      (if found.statements.isEmpty && t.now.errors.isEmpty then do
        errorOn (← line) SyntaxFault.noAssertion.message
      else pure () : Recorder Found Unit) found t := rfl
  rw [same, alike.statements, isEmpty_of_stand alike.failures]
  cases unstated : r.statements.isEmpty && r.failures.isEmpty with
  | true =>
    have head : t.now.scope.head? = some 0 := by rw [alike.scope]; rfl
    have added : Moves t [] [_] _ :=
      .record (e := ⟨SyntaxFault.noAssertion.message, nextLine t.now.ahead, 0⟩) head
    have clean : t.now.errors.isEmpty := by
      rw [isEmpty_of_stand alike.failures]
      exact (Bool.and_eq_true_iff.mp unstated).2
    exact ⟨_, _, errorOn_eq head, added, rfl, .inr ⟨List.isEmpty_iff.mp clean, rfl⟩,
      alike.fail added ⟨rfl, rfl, .root alike.root⟩⟩
  | false => exact ⟨t, [], rfl, .refl t, rfl, .inl rfl, alike⟩

theorem parse_parsed {frames : Nat} (enough : maxNesting + 1 ≤ frames) (lexemes : List Lexeme) :
    Parsed lexemes (parse frames lexemes) := by
  have first : Alike {} {} (opening lexemes) := ⟨rfl, rfl, rfl, rfl, rfl, .nil⟩
  obtain ⟨found, t, names, errors, read, moves, ended, fewer, agrees⟩ :=
    rounds_advance enough {} (opening_opened lexemes) rfl (Nat.lt_succ_self _)
  obtain ⟨alike, place⟩ := agrees {} lexemes.length (Nat.le_refl _) first
  change Alike (Reading.run lexemes.length {} lexemes).1 found t at alike
  obtain ⟨t', missing, required, added, ahead, one, last⟩ := requireAssertion_advances alike
  rw [place] at last
  change Alike (Reading.ofLexemes lexemes) found t' at last
  have few : t'.now.errors.length ≤ max 1 (sourceTokens lexemes).length := by
    obtain ⟨ts, spans⟩ := moves.spans
    have length : lexemes.length = ts.length + t.now.ahead.length := spans.length
    have tokens : sourceTokens lexemes = ts := spans.eq_sourceTokens ended
    have before : t.now.errors = errors := moves.errors
    have fewer : errors.length + t.now.ahead.length ≤ lexemes.length := fewer
    rw [added.errors, tokens, List.length_append]
    rcases one with rfl | ⟨empty, one⟩
    · rw [before, List.length_nil]
      omega
    · rw [empty, List.length_nil]
      omega
  have same : parse frames lexemes =
      (rounds frames ((opening lexemes).now.ahead.length + 1) >>= fun _ =>
        requireAssertion >>= fun _ => leave 0 .model) {} (opening lexemes) := rfl
  rw [same, bind_eq_match, read]
  dsimp only
  rw [bind_eq_match, required]
  exact last.parsed (moves.trans added) (ahead ▸ ended) few

end Recorder

end Attest
