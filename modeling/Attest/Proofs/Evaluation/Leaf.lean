import Attest.Evaluation.Evaluate
/-!
# Evaluation of one assertion

What an assertion reads: a right value, if it has as many operands as its form takes, and the members
of its left operand, if it counts them or is quantified.
-/

namespace Attest

namespace Scope

variable {s : Scope} {a : Assertion} {nodes others : List Node}

/-! ### Right values -/

/-- The value of a right operand, where there is one. -/
def givenValue (s : Scope) (form : Form) : Option Operand → Except AssertionError (Option Node)
  | some operand => do return some (← singleValue form operand (← s.resolve operand))
  | none => .ok none

theorem rightValue_of_fits
    (fits : 1 + a.right.toList.length = a.predicate.form.signature.operands) :
    s.rightValue a = s.givenValue a.predicate.form a.right := by
  unfold rightValue
  rw [← fits]
  cases a.right <;> rfl

/-- An assertion with too many or too few operands has no right value. -/
theorem rightValue_of_misfit
    (misfit : 1 + a.right.toList.length ≠ a.predicate.form.signature.operands) :
    s.rightValue a = .error (.malformed a.text) := by
  unfold rightValue
  split
  · next given two =>
    rw [given, two] at misfit
    exact absurd rfl misfit
  · next missing one =>
    rw [missing, one] at misfit
    exact absurd rfl misfit
  · rfl

/-! ### Members -/

theorem leaf_of_counts (counts : a.predicate.form.countsNodes)
    (resolved : s.resolve a.left = .ok nodes) : s.leaf a = count a nodes := by
  rw [leaf, resolved]
  exact if_pos counts

theorem count_congr (presence : nodes = [] ↔ others = [])
    (size : (members nodes).length = (members others).length) :
    count a nodes = count a others := by
  have empty : nodes.isEmpty = others.isEmpty := by
    rw [Bool.eq_iff_iff, List.isEmpty_iff, List.isEmpty_iff]
    exact presence
  rw [count, count, empty, size]

/-- The test of a quantified assertion on each member of its left operand. -/
def quantify : Quantifier → (Node → Except AssertionError Bool) → List Node →
    Except AssertionError Bool
  | .all => all
  | .any => any

theorem leaf_quantified {quantifier : Quantifier} (quantified : a.quantifier = some quantifier)
    (tests : a.predicate.form.countsNodes = false) (resolved : s.resolve a.left = .ok nodes) :
    s.leaf a = s.rightValue a >>= fun right =>
      quantify quantifier (fun node => a.predicate.apply node right) (members nodes) := by
  rw [leaf, resolved, quantified]
  refine (if_neg (by simp [tests])).trans ?_
  cases quantifier <;> rfl

end Scope

end Attest
