import Attest.Proofs.Syntax.Parsers
import Attest.Proofs.Syntax.Rules
/-!
# Single tokens and checks of forms

What the parsers make of single tokens is what the rules say. The checks made while an assertion is
read are together what makes it well formed.
-/

namespace Attest

/-! ### Names and signatures -/

namespace Form

theorem ofName?_name (form : Form) : ofName? form.name = some form := by
  cases form <;> decide

theorem ofName?_eq_some {name : String} {form : Form} :
    ofName? name = some form ↔ form.name = name := by
  constructor
  · intro h
    simpa using List.find?_some h
  · rintro rfl
    exact ofName?_name form

theorem operands_cases (form : Form) :
    form.signature.operands = 1 ∨ form.signature.operands = 2 := by
  cases form <;> decide

end Form

namespace SyntaxFault

/-- An argument has no fault exactly if its form admits it. -/
theorem ofArgument?_eq_none {form : Form} {value : Literal} :
    ofArgument? form value = none ↔ form.Admits value := by
  cases form with
  | «matches» =>
    cases value with
    | string pattern =>
      cases compiled : Pattern.compile pattern <;> simp [ofArgument?, Form.Admits, compiled]
    | _ => simp [ofArgument?, Form.Admits]
  | size =>
    cases value with
    | integer n =>
      simp only [ofArgument?, Form.Admits, Literal.integer.injEq]
      constructor
      · intro h
        split at h
        · next positive => exact ⟨n.toNat, (Int.toNat_of_nonneg positive).symm⟩
        · cases h
      · rintro ⟨m, rfl⟩
        simp
    | _ => simp [ofArgument?, Form.Admits]
  | between => cases value <;> simp [ofArgument?, Form.Admits]
  | _ => simp [ofArgument?, Form.Admits]

end SyntaxFault

/-! ### Single tokens -/

namespace Parser

open Rules

theorem bracketStep_eq_ok {t : Token} {step : Step} : bracketStep t = .ok step ↔ Key t step := by
  constructor
  · intro h
    cases t with
    | integer n =>
      simp only [bracketStep] at h
      split at h
      · next positive =>
        cases h
        have key := Key.index n.toNat
        rwa [Int.toNat_of_nonneg positive] at key
      · cases h
    | string name => cases h; exact .field name
    | star => cases h; exact .wildcard
    | _ => cases h
  · rintro (name | position | _)
    · rfl
    · simp [bracketStep]
    · rfl

theorem literal?_eq_some {t : Token} {value : Literal} :
    literal? t = some value ↔ t = value.token := by
  constructor
  · intro h
    cases t <;> cases h <;> rfl
  · rintro rfl
    cases value <;> rfl

theorem Literal.token_ne_endOfInput (value : Literal) : value.token ≠ .endOfInput := by
  cases value <;> simp [Attest.Literal.token]

end Parser

theorem Rules.Leaf.nextToken {declared : List String} {ahead rest : List Lexeme} {ts : List Token}
    {a : Assertion} (derived : Leaf declared ts a) (spans : Spans ahead ts rest) :
    nextToken ahead = .allWord ∨ nextToken ahead = .anyWord ∨
      ∃ name, nextToken ahead = .identifier name := by
  obtain ⟨_, _, _⟩ := derived
  obtain ⟨quantifier, predicate, left, right⟩ := a
  cases quantifier with
  | none => exact .inr (.inr ⟨_, spans.nextToken⟩)
  | some q =>
    cases q with
    | all => exact .inl spans.nextToken
    | any => exact .inr (.inl spans.nextToken)

/-! ### Parts of an assertion -/

namespace Parser

variable {ahead rest : List Lexeme} {declared : List String}

@[simp] theorem comma_eq_ok {form : Form} {u : Unit} :
    comma form ahead = .ok (u, rest) ↔ nextToken ahead = .comma ∧ ahead.tail = rest := by
  simp only [comma, peek_bind]
  generalize nextToken ahead = t
  split <;> simp_all

@[simp] theorem formName_eq_ok {name : String} :
    formName ahead = .ok (name, rest) ↔ nextToken ahead = .identifier name ∧ ahead.tail = rest := by
  simp only [formName, peek_bind]
  generalize nextToken ahead = t
  split <;> simp_all [advance_bind]

@[simp] theorem variableName_eq_ok {name : String} :
    variableName ahead = .ok (name, rest) ↔
      nextToken ahead = .identifier name ∧ ahead.tail = rest := by
  simp only [variableName, peek_bind]
  generalize nextToken ahead = t
  split <;> simp_all [advance_bind]

@[simp] theorem closing_eq_ok {form : Form} {u : Unit} :
    closing form ahead = .ok (u, rest) ↔ nextToken ahead = .rightParen ∧ ahead.tail = rest := by
  simp only [closing, peek_bind]
  split
  · next here => simp [here]
  · exact expect_eq_ok

@[simp] theorem form_eq_ok {n : Nat} {name : String} {quantifier : Option Quantifier} {f : Form} :
    form n name quantifier ahead = .ok (f, rest) ↔
      f.name = name ∧ (f.countsNodes → quantifier = none) ∧ ahead = rest := by
  unfold form
  rw [← Form.ofName?_eq_some]
  generalize Form.ofName? name = found
  cases found with
  | none => simp
  | some g =>
    cases quantifier with
    | none => simp
    | some q =>
      simp only
      split
      · next counts =>
        refine iff_of_false failOn_ne_ok ?_
        rintro ⟨same, check, _⟩
        cases same
        cases check counts
      · next values =>
        rw [pure_eq_ok]
        constructor
        · rintro ⟨rfl, rfl⟩
          exact ⟨rfl, fun counts => absurd counts values, rfl⟩
        · rintro ⟨same, _, rfl⟩
          exact ⟨Option.some.inj same, rfl⟩

theorem leftOperand_eq_ok {form : Form} {around : List String → Construct} {x : Operand} :
    leftOperand form declared around ahead = .ok (x, rest) ↔
      operand declared ahead = .ok (x, rest) ∧
        (form.countsNodes → ∀ value, x ≠ .literal value) := by
  simp only [leftOperand, line_bind, bind_eq_ok, within_eq_ok]
  constructor
  · rintro ⟨left, mid, read, h⟩
    split at h
    · split at h
      · simp at h
      · next values =>
        obtain ⟨rfl, rfl⟩ := pure_eq_ok.mp h
        exact ⟨read, fun counts => absurd counts values⟩
    · next noLiteral =>
      obtain ⟨rfl, rfl⟩ := pure_eq_ok.mp h
      exact ⟨read, fun _ => noLiteral⟩
  · rintro ⟨read, check⟩
    refine ⟨x, rest, read, ?_⟩
    split
    · next value =>
      rw [if_neg fun counts => check counts value rfl]
      simp
    · simp

end Parser

end Attest
