import Attest.Proofs.Analysis.Sessions
import Attest.Proofs.Evaluation.Reordering
import Attest.Proofs.Syntax.Preface
/-!
# The order of declarations

The order in which a source declares its variables has no part in what it evaluates to.
-/

namespace Attest

variable {document : Node} {tree : AssertionTree} {declarations others : List Declaration}

/-- Declarations that are bound leave a session that evaluates the same in every order. -/
theorem Session.run_perm (same : declarations.Perm others)
    (bound : (Store.empty.resolve document declarations).error = none) :
    Session.run { document } ⟨others, tree⟩ = Session.run { document } ⟨declarations, tree⟩ := by
  have bound' : (Store.empty.resolve document others).error = none := by
    rw [← Store.refusal_eq_none_iff, Store.refusal_perm same, Store.refusal_eq_none_iff]
    exact bound
  have scopes : Specification.scope ⟨others, tree⟩ document =
      Specification.scope ⟨declarations, tree⟩ document := by
    rw [Specification.scope, Store.resolve_store_perm same bound]
    rfl
  rw [run_of_bound bound', run_of_bound bound, scopes]

/-- Declarations are bound in every order or in none, to the same store or for the same kind of
error, which is a repeated name where there is one. Hence a source whose declarations are written in
another order is read as the same assertions, and evaluates to the same. -/
theorem Session.runText_reordered :
    (∀ (document : Node) (declarations others : List Declaration), declarations.Perm others →
      let here := Store.empty.resolve document declarations
      let there := Store.empty.resolve document others
      (there.error = none ↔ here.error = none) ∧ (here.error = none → there.store = here.store) ∧
      ∀ error, here.error = some error →
        ∃ error', there.error = some error' ∧ error'.kind = error.kind ∧
          (error.kind = .duplicateName ↔ ¬ (declarations.map (·.name)).Nodup)) ∧
    ∀ (source : String) (spec : Specification), Specification.parse source = .ok spec →
      (∃ texts rest, Prefaced texts rest source.toList ∧
        texts.length = spec.declarations.length) ∧
      ∀ (texts others : List (List Char)) (rest : List Char) (other : String),
        Prefaced texts rest source.toList → texts.Perm others → Prefaced others rest other.toList →
        ∃ declarations, spec.declarations.Perm declarations ∧
          Specification.parse other = .ok ⟨declarations, spec.assertions⟩ ∧
          ∀ document : Node,
            ((Store.empty.resolve document spec.declarations).error = none →
              Session.runText document other = Session.runText document source) ∧
            ∀ error, (Store.empty.resolve document spec.declarations).error = some error →
              ∃ error', error'.kind = error.kind ∧
                Session.runText document source = (some .empty, .error (.declaration error)) ∧
                Session.runText document other = (some .empty, .error (.declaration error')) := by
  have refusals (document : Node) (declarations others : List Declaration)
      (same : declarations.Perm others) (error : DeclarationError)
      (refused : (Store.empty.resolve document declarations).error = some error) :
      ∃ error', (Store.empty.resolve document others).error = some error' ∧
        error'.kind = error.kind := by
    have kinds : Store.empty.refusal document others = Store.empty.refusal document declarations :=
      Store.refusal_perm same
    unfold Store.refusal at kinds
    rw [refused] at kinds
    exact Option.map_eq_some_iff.mp kinds
  constructor
  · intro document declarations others same here there
    refine ⟨?_, Store.resolve_store_perm same, fun error refused => ?_⟩
    · rw [← Store.refusal_eq_none_iff, Store.refusal_perm same, Store.refusal_eq_none_iff]
    · obtain ⟨error', refused', kind⟩ := refusals document declarations others same error refused
      refine ⟨error', refused', kind, ?_⟩
      rw [Store.kind_of_resolve refused, Store.fresh_empty_iff]
  · intro source spec read
    refine ⟨Specification.exists_prefaced read, ?_⟩
    intro texts others rest other prefaced same reordered
    obtain ⟨ds, perm, read'⟩ := Specification.parse_reordered read prefaced same reordered
    refine ⟨ds, perm, read', fun document => ⟨fun bound => ?_, fun error refused => ?_⟩⟩
    · rw [Session.runText_of_parse read, Session.runText_of_parse read', Session.run_perm perm bound]
    · obtain ⟨error', refused', kind⟩ := refusals document _ _ perm error refused
      refine ⟨error', kind, ?_, ?_⟩
      · rw [Session.runText_of_parse read, Session.run_of_refused refused]
      · rw [Session.runText_of_parse read', Session.run_of_refused refused']

open Lexer Rules

/-- What is read of `let a = x; let b = y; equals(a, b)`. -/
def Specification.pair : Specification :=
  ⟨[⟨"a", [.field "x"]⟩, ⟨"b", [.field "y"]⟩],
    .leaf ⟨none, ⟨.equals, []⟩, .variable "a" [], some (.variable "b" [])⟩⟩

theorem Specification.source_pair : Rules.Source
    [.letWord, .identifier "a", .equals, .identifier "x", .semicolon, .letWord, .identifier "b",
      .equals, .identifier "y", .semicolon, .identifier "equals", .leftParen, .identifier "a",
      .comma, .identifier "b", .rightParen] pair := by
  have declarations : Declarations _ pair.declarations :=
    .cons "a" (.head (.field "x") .nil) (.cons "b" (.head (.field "y") .nil) .nil)
  have wellFormed : Assertion.WellFormed
      ⟨none, ⟨.equals, []⟩, .variable "a" [], some (.variable "b" [])⟩ :=
    ⟨rfl, rfl, by simp, nofun, nofun⟩
  have left : OneOperand ["a", "b"] [.identifier "a"] (.variable "a" []) :=
    .declared (by simp) .nil
  have right : OneOperand ["a", "b"] [.identifier "b"] (.variable "b" []) :=
    .declared (by simp) .nil
  have leaf := Leaf.intro left (.some right) wellFormed
  have statement : Disjunction ["a", "b"] maxNesting _ _ := ⟨_, .last (.last (.leaf leaf)), rfl⟩
  exact .intro declarations (.last statement) (by simp)

/-- Two declarations change places, and the comment between them stays. -/
theorem Session.runText_reordered_pair :
    let source := "let a = x; # first\nlet b = y;\nequals(a, b)"
    let other := "let b = y; # first\nlet a = x;\nequals(a, b)"
    let texts := ["let a = x;".toList, "let b = y;".toList]
    let rest := "\nequals(a, b)".toList
    let document := Node.mapping [("x", .integer 1), ("y", .integer 1)]
    Specification.parse source = .ok Specification.pair ∧ Prefaced texts rest source.toList ∧
      texts.Perm texts.reverse ∧ Prefaced texts.reverse rest other.toList ∧
      (Store.empty.resolve document Specification.pair.declarations).error = none ∧
      Session.runText document other = Session.runText document source := by
  intro source other texts rest document
  have tokens : sourceTokens (lex source) = [.letWord, .identifier "a", .equals, .identifier "x",
      .semicolon, .letWord, .identifier "b", .equals, .identifier "y", .semicolon,
      .identifier "equals", .leftParen, .identifier "a", .comma, .identifier "b",
      .rightParen] := by decide +kernel
  have read : Specification.parse source = .ok Specification.pair := by
    refine Specification.ofLexemes_of_source ?_
    rw [tokens]
    exact Specification.source_pair
  have first : LetText "let a = x;".toList [.identifier "a", .equals, .identifier "x"] :=
    ⟨.cons rfl (.cons rfl (.cons rfl (.cons rfl (.single rfl)))), by simp⟩
  have second : LetText "let b = y;".toList [.identifier "b", .equals, .identifier "y"] :=
    ⟨.cons rfl (.cons rfl (.cons rfl (.cons rfl (.single rfl)))), by simp⟩
  have line : Trivia (['#'] ++ " first".toList ++ ['\n']) := .comment (by decide) (by decide) .nil
  have comment : Gap " # first\n".toList := .trivia (.blank (by decide) line)
  have prefaced : Prefaced texts rest source.toList := by
    have split : source.toList =
        [] ++ ("let a = x;".toList ++ (" # first\n".toList ++ ("let b = y;".toList ++ rest))) := by
      decide
    rw [split]
    exact .declaration (.trivia .nil) first (.declaration comment second (.rest rest))
  have reordered : Prefaced texts.reverse rest other.toList := by
    have split : other.toList =
        [] ++ ("let b = y;".toList ++ (" # first\n".toList ++ ("let a = x;".toList ++ rest))) := by
      decide
    rw [split]
    exact .declaration (.trivia .nil) second (.declaration comment first (.rest rest))
  have same : texts.Perm texts.reverse := (List.reverse_perm texts).symm
  obtain ⟨_, permuted⟩ := runText_reordered.2 source Specification.pair read
  obtain ⟨_, _, _, evaluates⟩ := permuted texts texts.reverse rest other prefaced same reordered
  exact ⟨read, prefaced, same, reordered, rfl, (evaluates document).1 rfl⟩

end Attest
