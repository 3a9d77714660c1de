import Attest.Proofs.Language.Names
import Attest.Proofs.Syntax.Leaves
import Attest.Proofs.Syntax.RoundTrip
/-!
# Origins

Each name, index and literal of a specification is a token of its source. The rules use no invalid
token, so a source with one is not parsed.
-/

namespace Attest

open Lexer

/-! ### Parts of a specification -/

/-- The path is that of a declaration or of an operand. -/
inductive Specification.HasPath (spec : Specification) : Path → Prop
  | declaration {d : Declaration} (member : d ∈ spec.declarations) : HasPath spec d.path
  | operand {a : Assertion} {path : Path} (leaf : a ∈ spec.assertions.leaves)
    (member : .path path ∈ a.operands) : HasPath spec path
  | behind {a : Assertion} {name : String} {path : Path} (leaf : a ∈ spec.assertions.leaves)
    (member : .variable name path ∈ a.operands) : HasPath spec path

/-- The literal is an operand or an argument. -/
inductive Specification.HasLiteral (spec : Specification) : Literal → Prop
  | operand {a : Assertion} {value : Literal} (leaf : a ∈ spec.assertions.leaves)
    (member : .literal value ∈ a.operands) : HasLiteral spec value
  | argument {a : Assertion} {value : Literal} (leaf : a ∈ spec.assertions.leaves)
    (member : value ∈ a.predicate.arguments) : HasLiteral spec value

/-! ### Parts among tokens -/

section

variable {ts us : List Token}

/-- What names the step is one of the tokens. -/
def Step.Among (ts : List Token) : Step → Prop
  | .field name => .identifier name ∈ ts ∨ .string name ∈ ts
  | .index position => .integer position ∈ ts
  | .wildcard => True

theorem Step.Among.mono {step : Step} (among : step.Among ts) (inside : ts ⊆ us) :
    step.Among us := by
  cases step with
  | field name => exact among.imp (fun member => inside member) fun member => inside member
  | index position => exact inside among
  | wildcard => trivial

/-- The steps of a path stand among the tokens. -/
def Path.Among (ts : List Token) (path : Path) : Prop :=
  ∀ step ∈ path, step.Among ts

theorem Path.Among.mono {path : Path} (among : Path.Among ts path) (inside : ts ⊆ us) :
    Path.Among us path :=
  fun step member => (among step member).mono inside

/-- What an operand consists of stands among the tokens. -/
def Operand.Among (ts : List Token) : Operand → Prop
  | .path steps => Path.Among ts steps
  | .variable name steps => (.variable name ∈ ts ∨ .identifier name ∈ ts) ∧ Path.Among ts steps
  | .literal value => value.token ∈ ts

theorem Operand.Among.mono {operand : Operand} (among : operand.Among ts) (inside : ts ⊆ us) :
    operand.Among us := by
  match operand, among with
  | .path _, among => exact Path.Among.mono among inside
  | .variable _ _, among =>
    exact ⟨among.1.imp (fun member => inside member) fun member => inside member,
      among.2.mono inside⟩
  | .literal _, among => exact inside among

end

namespace Rules

variable {declared : List String} {room : Nat} {ts us : List Token}

theorem Key.among {t : Token} {step : Step} (key : Key t step) :
    step.Among [.leftBracket, t, .rightBracket] := by
  cases key with
  | field name => exact .inr (by simp)
  | index position => exact List.mem_cons_of_mem _ List.mem_cons_self
  | wildcard => trivial

theorem OneStep.among {step : Step} (derived : OneStep ts step) : step.Among ts := by
  cases derived with
  | field name => exact .inl (by simp)
  | wildcard => trivial
  | key key => exact key.among

theorem Head.among {step : Step} (derived : Head ts step) : step.Among ts := by
  cases derived with
  | field name => exact .inl (by simp)
  | wildcard => trivial
  | key key => exact key.among

theorem Steps.among {path : Path} (derived : Steps ts path) : Path.Among ts path := by
  induction derived with
  | nil =>
    intro step member
    cases member
  | cons first _ ih =>
    exact List.forall_mem_cons.mpr ⟨first.among.mono (List.subset_append_left _ _),
      ih.mono (List.subset_append_right _ _)⟩

theorem PathFrom.among {path : Path} (derived : PathFrom ts path) : Path.Among ts path := by
  cases derived with
  | root steps => exact steps.among.mono (List.subset_cons_self _ _)
  | head head rest =>
    exact List.forall_mem_cons.mpr ⟨head.among.mono (List.subset_append_left _ _),
      rest.among.mono (List.subset_append_right _ _)⟩

theorem OneOperand.among {operand : Operand} :
    OneOperand declared ts operand → operand.Among ts
  | .literal _ => List.mem_cons_self
  | .variable _ steps =>
    ⟨.inl List.mem_cons_self, steps.among.mono (List.subset_cons_self _ _)⟩
  | .declared _ steps =>
    ⟨.inr List.mem_cons_self, steps.among.mono (List.subset_cons_self _ _)⟩
  | .path steps _ => steps.among

theorem Leaf.argument {a : Assertion} {value : Literal} (derived : Leaf declared ts a)
    (member : value ∈ a.predicate.arguments) : value.token ∈ ts := by
  cases derived with
  | intro _ _ _ =>
    have argument : value.token ∈ argumentTokens a.predicate.arguments :=
      List.mem_flatMap.mpr ⟨value, member, by simp⟩
    simp [argument]

theorem Declarations.among {ds : List Declaration} (derived : Declarations ts ds) :
    ∀ d ∈ ds, .identifier d.name ∈ ts ∧ Path.Among ts d.path := by
  induction derived with
  | nil => simp
  | empty _ ih =>
    intro d member
    obtain ⟨named, among⟩ := ih d member
    exact ⟨List.mem_cons_of_mem _ named, among.mono (List.subset_cons_self _ _)⟩
  | @cons vs ws path ds name steps _ ih =>
    have path : vs ⊆ .letWord :: .identifier name :: .equals :: (vs ++ .semicolon :: ws) := by
      intro t member
      simp [member]
    have rest : ws ⊆ .letWord :: .identifier name :: .equals :: (vs ++ .semicolon :: ws) := by
      intro t member
      simp [member]
    refine List.forall_mem_cons.mpr ⟨⟨by simp, steps.among.mono path⟩, fun d member => ?_⟩
    obtain ⟨named, among⟩ := ih d member
    exact ⟨rest named, among.mono rest⟩

section

variable {spec : Specification}

theorem Source.declaration (source : Source ts spec) :
    ∀ d ∈ spec.declarations, .identifier d.name ∈ ts ∧ Path.Among ts d.path := by
  cases source with
  | intro declarations _ _ =>
    intro d member
    obtain ⟨named, among⟩ := declarations.among d member
    exact ⟨List.mem_append_left _ named, among.mono (List.subset_append_left _ _)⟩

theorem Source.operand (source : Source ts spec) {a : Assertion}
    (leaf : a ∈ spec.assertions.leaves) : ∀ operand ∈ a.operands, operand.Among ts := by
  intro operand member
  obtain ⟨us, derived, inside⟩ := source.derives a leaf
  obtain ⟨vs, one, within⟩ := derived.operand member
  exact one.among.mono fun t there => inside.subset (within there)

theorem Source.path (source : Source ts spec) {path : Path} (has : spec.HasPath path) :
    Path.Among ts path := by
  cases has with
  | declaration member => exact (source.declaration _ member).2
  | operand leaf member => exact source.operand leaf _ member
  | behind leaf member => exact (source.operand leaf _ member).2

theorem Source.literal (source : Source ts spec) {value : Literal}
    (has : spec.HasLiteral value) : value.token ∈ ts := by
  cases has with
  | operand leaf member => exact source.operand leaf _ member
  | argument leaf member =>
    obtain ⟨us, derived, inside⟩ := source.derives _ leaf
    exact inside.subset (derived.argument member)

end

/-! ### Invalid tokens -/

/-- The token is no invalid text. -/
def isValid : Token → Bool
  | .invalid _ => false
  | _ => true

theorem Key.valid {t : Token} {step : Step} (key : Key t step) :
    [.leftBracket, t, .rightBracket].all isValid = true := by
  cases key <;> rfl

theorem Steps.valid {path : Path} (derived : Steps ts path) : ts.all isValid = true := by
  induction derived with
  | nil => rfl
  | cons first _ ih =>
    rw [List.all_append, ih, Bool.and_true]
    cases first with
    | field name => rfl
    | wildcard => rfl
    | key key => exact key.valid

theorem PathFrom.valid {path : Path} (derived : PathFrom ts path) : ts.all isValid = true := by
  cases derived with
  | root steps => exact steps.valid
  | head head rest =>
    rw [List.all_append, rest.valid, Bool.and_true]
    cases head with
    | field name => rfl
    | wildcard => rfl
    | key key => exact key.valid

theorem valid_literal (value : Literal) : isValid value.token = true := by
  cases value <;> rfl

theorem OneOperand.valid {operand : Operand} :
    OneOperand declared ts operand → ts.all isValid = true
  | .literal value => by
    rw [List.all_cons, valid_literal]
    rfl
  | .variable _ steps => steps.valid
  | .declared _ steps => steps.valid
  | .path steps _ => steps.valid

theorem Second.valid {right : Option Operand} (derived : Second declared ts right) :
    ts.all isValid = true := by
  cases derived with
  | none => rfl
  | some operand => exact operand.valid

theorem valid_arguments (values : List Literal) : (argumentTokens values).all isValid = true := by
  rw [argumentTokens, List.all_flatMap, List.all_eq_true]
  intro value _
  rw [List.all_cons, List.all_cons, valid_literal]
  rfl

theorem Leaf.valid {a : Assertion} (derived : Leaf declared ts a) : ts.all isValid = true := by
  cases derived with
  | @intro us vs _ left right _ =>
    have quantified : (a.quantifier.toList.map Quantifier.token).all isValid = true := by
      cases a.quantifier with
      | none => rfl
      | some quantifier => cases quantifier <;> rfl
    have operands := left.valid
    have second := right.valid
    have arguments := valid_arguments a.predicate.arguments
    simp only [List.all_append, List.all_cons, quantified, operands, second, arguments]
    rfl

mutual

theorem Part.valid {room : Nat} {ts : List Token} {tree : AssertionTree} :
    Part declared room ts tree → ts.all isValid = true
  | .leaf derived => derived.valid
  | .not inner => inner.valid
  | .group inner => by
    rw [List.all_cons, List.all_append, inner.valid]
    rfl

theorem Conjuncts.valid {room : Nat} {ts : List Token} {trees : List AssertionTree} :
    Conjuncts declared room ts trees → ts.all isValid = true
  | .last part => part.valid
  | .more part rest => by
    rw [List.all_append, List.all_cons, part.valid, rest.valid]
    rfl

theorem Disjuncts.valid {room : Nat} {ts : List Token} {trees : List AssertionTree} :
    Disjuncts declared room ts trees → ts.all isValid = true
  | .last conjunction => conjunction.valid
  | .more conjunction rest => by
    rw [List.all_append, List.all_cons, conjunction.valid, rest.valid]
    rfl

end

theorem Disjunction.valid {tree : AssertionTree} (derived : Disjunction declared room ts tree) :
    ts.all isValid = true := by
  obtain ⟨trees, disjuncts, _⟩ := derived
  exact disjuncts.valid

theorem Statements.valid {trees : List AssertionTree} (derived : Statements declared ts trees) :
    ts.all isValid = true := by
  induction derived with
  | nil => rfl
  | empty _ ih => exact ih
  | last statement => exact statement.valid
  | cons statement _ ih =>
    rw [List.all_append, List.all_cons, statement.valid, ih]
    rfl

theorem Declarations.valid {ds : List Declaration} (derived : Declarations ts ds) :
    ts.all isValid = true := by
  induction derived with
  | nil => rfl
  | empty _ ih => exact ih
  | cons name steps _ ih =>
    simp only [List.all_cons, List.all_append, steps.valid, ih]
    rfl

theorem Source.valid {spec : Specification} (source : Source ts spec) :
    ts.all isValid = true := by
  cases source with
  | intro declarations statements _ =>
    rw [List.all_append, declarations.valid, statements.valid]
    rfl

end Rules

open Rules

/-! ### Sources -/

namespace Specification

variable {source : String} {spec : Specification}

/-- A source is parsed as what the rules derive from its tokens. -/
theorem parse_iff_source : parse source = .ok spec ↔ ∃ ts, ReadsAs source ts ∧ Source ts spec := by
  constructor
  · intro read
    obtain ⟨ts, rest, scans, done⟩ := Scans.exists_to_end source.toList
    have reads : ReadsAs source ts := readsAs_iff.mpr ⟨rest, scans, done⟩
    exact ⟨ts, reads, reads.sourceTokens ▸ source_of_ofLexemes read⟩
  · rintro ⟨ts, reads, derived⟩
    exact ofLexemes_of_source (reads.sourceTokens ▸ derived)

theorem lexed_of_readsAs {ts : List Token} (reads : ReadsAs source ts) : ∀ t ∈ ts, t.Lexed := by
  obtain ⟨rest, scans, _⟩ := readsAs_iff.mp reads
  exact scans.lexed

/-- A source with an invalid token is not parsed. -/
theorem not_parsed_of_invalid {ts : List Token} {reason : LexicalError} {mid : List Char}
    (scans : Scans source.toList (ts ++ [.invalid reason]) mid) : parse source ≠ .ok spec := by
  intro read
  obtain ⟨us, reads, derived⟩ := parse_iff_source.mp read
  obtain ⟨rest, whole, done⟩ := readsAs_iff.mp reads
  obtain ⟨vs, last, later, done'⟩ := Scans.exists_to_end mid
  have same : us = ts ++ [.invalid reason] ++ vs := by
    have other : ReadsAs source (ts ++ [.invalid reason] ++ vs) :=
      readsAs_iff.mpr ⟨last, scans.append later, done'⟩
    exact reads.sourceTokens.symm.trans other.sourceTokens
  have valid := derived.valid
  simp [same, isValid] at valid

/-- The indices of a path that was read are within the range of integers. -/
theorem HasPath.indexFits {path : Path} (has : spec.HasPath path)
    (read : parse source = .ok spec) : ∀ step ∈ path, step.IndexFits := by
  obtain ⟨ts, reads, derived⟩ := parse_iff_source.mp read
  intro step member
  have among := derived.path has step member
  cases step with
  | index position => exact (lexed_of_readsAs reads _ among).2
  | _ => trivial

end Specification

end Attest
