import Attest.Language.Assertion
/-!
# Constructs

The parts of a source that an error can point at. A construct that was given up keeps what was
read of it.
-/

namespace Attest

/-- A leaf assertion as far as it was read. -/
structure AssertionDraft where
  quantifier : Option Quantifier := none
  /-- The name of the form, which may be no form. -/
  form : Option String := none
  /-- Texts of the operands and arguments. -/
  items : List String := []
  complete : Bool := false
  deriving DecidableEq, Repr

namespace AssertionDraft

def text (d : AssertionDraft) : String :=
  Assertion.quantifierText d.quantifier ++
    match d.form with
    | none => "..."
    | some form =>
      let items := if d.complete then d.items else d.items ++ ["..."]
      form ++ "(" ++ ", ".intercalate items ++ ")"

end AssertionDraft

/-- A declaration as far as it was read. -/
structure DeclarationDraft where
  name : Option String := none
  path : Path := []
  complete : Bool := false
  deriving DecidableEq, Repr

namespace DeclarationDraft

def text (d : DeclarationDraft) : String :=
  match d.name with
  | none => "let ..."
  | some name =>
    if d.complete then Declaration.text ⟨name, d.path⟩
    else if d.path.isEmpty then "let " ++ name ++ " ..."
    else Declaration.text ⟨name, d.path⟩ ++ " ..."

end DeclarationDraft

inductive Construct
  | predicate (predicate : Predicate)
  | assertion (draft : AssertionDraft)
  | declaration (draft : DeclarationDraft)
  | step (step : Step)
  | model
  | group
  | negation
  | operand
  deriving DecidableEq, Repr

namespace Construct

/-- The text by which a message names the construct. The last four kinds have none. -/
def name? : Construct → Option String
  | predicate p => some p.text
  | assertion draft => some draft.text
  | declaration draft => some draft.text
  | step s => some s.text
  | model | group | negation | operand => none

end Construct

end Attest
