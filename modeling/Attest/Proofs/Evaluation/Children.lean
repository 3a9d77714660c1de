import Attest.Evaluation.Evaluate
/-!
# Children

Conjunctions and disjunctions evaluate their children in the same way: from the left, as long as the
truth of each leaves that of the whole open.
-/

namespace Attest

namespace AssertionTree

variable {leaf : Assertion → Except AssertionError Bool}

/-- Children are evaluated as long as each is `unit`, and the first that is not decides. -/
structure EvaluatesWhile (leaf : Assertion → Except AssertionError Bool) (unit : Bool)
    (each : List AssertionTree → Outcome) : Prop where
  nil : each [] = ⟨.ok unit, []⟩
  goes : ∀ child rest, (child.evaluate leaf).result = .ok unit →
    each (child :: rest) = (child.evaluate leaf).before (each rest)
  stops : ∀ child rest, (child.evaluate leaf).result ≠ .ok unit →
    each (child :: rest) = child.evaluate leaf

theorem evaluateAll_while : EvaluatesWhile leaf true (evaluateAll leaf) where
  nil := rfl
  goes := by
    intro child rest holds
    simp [evaluateAll, holds]
  stops := by
    intro child rest differs
    unfold evaluateAll
    dsimp only
    split
    · next holds => exact absurd holds differs
    · rfl

theorem evaluateAny_while : EvaluatesWhile leaf false (evaluateAny leaf) where
  nil := rfl
  goes := by
    intro child rest fails
    simp [evaluateAny, fails]
  stops := by
    intro child rest differs
    unfold evaluateAny
    dsimp only
    split
    · next fails => exact absurd fails differs
    · rfl

end AssertionTree

end Attest
