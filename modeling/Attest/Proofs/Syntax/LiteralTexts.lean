import Attest.Proofs.Language.FloatTexts
import Attest.Proofs.Syntax.PathTexts
/-!
# Texts of literals

The text of a literal is one token, that of the literal, unless a string has a character that is
quoted by an escape which strings lack, or a float is infinite or is written with an exponent.
-/

namespace Attest

open Number Lexer

/-- The text of the literal is its token: its characters can be quoted, or it is plain. -/
def Literal.IsLegible : Literal → Prop
  | .float x => x.IsPlain
  | .string value => value.toList.all Text.isQuotable = true
  | .null | .boolean _ | .integer _ => True

/-- The text of a legible literal is read as its token. -/
theorem Literal.readsBack_of_legible {value : Literal} (lexed : value.token.Lexed)
    (legible : value.IsLegible) : value.ReadsBack := by
  cases value with
  | null => exact (by decide +kernel : ReadsAs "null" [.null])
  | boolean b => cases b <;> unfold Literal.ReadsBack <;> decide +kernel
  | integer n => exact (reads_integer lexed.1 lexed.2).readsAs
  | string v => exact (Reads.quote legible).readsAs
  | float x => exact (reads_float legible).readsAs

namespace Specification

variable {source : String} {spec : Specification} {value : Literal}

theorem HasLiteral.lexed (has : spec.HasLiteral value) (read : parse source = .ok spec) :
    value.token.Lexed := by
  obtain ⟨ts, reads, derived⟩ := parse_iff_source.mp read
  exact lexed_of_readsAs reads _ (derived.literal has)

/-- The text of a literal of a source is read as one token, which is that of the literal, exactly
if the literal is legible. -/
theorem readsAs_literalText (read : parse source = .ok spec) (has : spec.HasLiteral value) :
    ReadsAs value.text [value.token] ↔ value.IsLegible := by
  refine ⟨fun reads => ?_, Literal.readsBack_of_legible (has.lexed read)⟩
  cases value with
  | null | boolean | integer => trivial
  | string v =>
    by_contra unquotable
    obtain ⟨rest, scans, _⟩ := readsAs_iff.mp reads
    obtain ⟨reason, invalid⟩ := token?_quote_invalid (Bool.eq_false_iff.mpr unquotable) []
    rw [List.append_nil] at invalid
    cases scans with
    | cons first _ => cases invalid.symm.trans first
  | float x =>
    by_contra exotic
    have numeric := numeric_of_readsAs (solid_float x) reads rfl
    exact Bool.false_ne_true ((not_numeric_float exotic).symm.trans numeric)

/-- The least number that is written with an exponent, and a string with a tab. -/
def measured : Specification :=
  ⟨[], .leaf ⟨none, ⟨.equals, []⟩, .literal (.float .plainBound),
    some (.literal (.string "a\tb"))⟩⟩

theorem parse_measured : parse "equals(10000000000000000.0, \"a\\tb\")" = .ok measured := by
  have wellFormed : Assertion.WellFormed ⟨none, ⟨.equals, []⟩, .literal (.float .plainBound),
      some (.literal (.string "a\tb"))⟩ :=
    ⟨rfl, rfl, by simp, nofun, nofun⟩
  have left : Rules.OneOperand [] [.float .plainBound] (.literal (.float .plainBound)) :=
    .literal (.float _)
  have right : Rules.OneOperand [] [.string "a\tb"] (.literal (.string "a\tb")) :=
    .literal (.string _)
  have leaf := Rules.Leaf.intro left (.some right) wellFormed
  have statement : Rules.Disjunction [] maxNesting _ measured.assertions :=
    ⟨_, .last (.last (.leaf leaf)), rfl⟩
  refine parse_iff_source.mpr ⟨_, ?_, .intro .nil (.last statement) (by simp)⟩
  decide +kernel

theorem measured_number : measured.HasLiteral (.float .plainBound) :=
  .operand List.mem_cons_self List.mem_cons_self

theorem measured_string : measured.HasLiteral (.string "a\tb") :=
  .operand List.mem_cons_self (List.mem_cons_of_mem _ List.mem_cons_self)

theorem not_isPlain_plainBound : ¬ Binary64.plainBound.IsPlain := by
  rintro ⟨_, bounds⟩
  rw [Binary64.size_plainBound] at bounds
  norm_num at bounds

theorem readsAs_literalText_measured :
    let number : Literal := .float .plainBound
    let text : Literal := .string "a\tb"
    measured.HasLiteral number ∧ measured.HasLiteral text ∧ number.text = "1e16" ∧
      text.text = "\"a\\tb\"" ∧ ¬ ReadsAs number.text [number.token] ∧
      ReadsAs text.text [text.token] := by
  intro number text
  have quotable : "a\tb".toList.all Text.isQuotable = true := by decide +kernel
  exact ⟨measured_number, measured_string, by decide +kernel, by decide +kernel,
    (readsAs_literalText parse_measured measured_number).not.mpr not_isPlain_plainBound,
    (readsAs_literalText parse_measured measured_string).mpr quotable⟩

/-- There is no exponent in the numbers of a source. -/
theorem literalText_not_token :
    ¬ ∀ (source : String) (spec : Specification) (value : Literal), parse source = .ok spec →
        spec.HasLiteral value → ReadsAs value.text [value.token] := by
  intro every
  have reads := every _ measured _ parse_measured measured_number
  have numeric := numeric_of_readsAs (solid_float .plainBound) reads rfl
  rw [not_numeric_float not_isPlain_plainBound] at numeric
  cases numeric

end Specification

end Attest
