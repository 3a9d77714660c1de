import Attest.Proofs.Language.Quoting
import Attest.Proofs.Syntax.Origins
/-!
# Texts of paths

The text of a path is read as the path again, unless a field name has two joiners in a row or a
character that is quoted by an escape which strings lack. The text of such a path is not parsed.
-/

namespace Attest

namespace Step

/-- The field name is written as a word, or in quotes as strings have them. -/
def isLegible : Step → Bool
  | .field name =>
    if isPlainName name then Lexer.joinersApart name.toList
    else name.toList.all Text.isQuotable
  | .index _ | .wildcard => true

end Step

def Path.isLegible (path : Path) : Bool :=
  path.all Step.isLegible

namespace Lexer

theorem Reads.readsAs {text : String} {ts : List Token} (reads : Reads text.toList ts) :
    ReadsAs text ts := by
  have scans := reads [] boundary_nil
  rw [List.append_nil] at scans
  exact readsAs_iff.mpr ⟨[], scans, rfl⟩

theorem readsBack_of_legible {step : Step} (legible : step.isLegible = true) : step.ReadsBack := by
  cases step with
  | field name =>
    unfold Step.isLegible at legible
    unfold Step.ReadsBack Step.text Step.tokens
    dsimp only at legible ⊢
    split at legible
    · next plain =>
      rw [if_pos plain, if_pos plain]
      exact (Reads.word (isWord_of_plain plain legible) (plain_parts plain).2.2.2).readsAs
    · next bracketed =>
      rw [if_neg bracketed, if_neg bracketed]
      refine Reads.readsAs ?_
      rw [toList_bracketed]
      exact reads_bracketed (.quote legible)
  | _ => trivial

/-! ### Texts with an invalid token -/

/-- Before a boundary the characters are scanned up to an invalid token. -/
def Spoils (cs : List Char) : Prop :=
  ∀ rest, Boundary rest → ∃ ts reason mid, Scans (cs ++ rest) (ts ++ [.invalid reason]) mid

namespace Spoils

variable {cs ds : List Char}

theorem append (spoils : Spoils cs) (opens : Opens ds) : Spoils (cs ++ ds) := by
  intro rest boundary
  rw [List.append_assoc]
  exact spoils _ (opens rest boundary)

theorem punctuation {c : Char} {t : Token} (mark : punctuation? c = some t) (later : Spoils cs) :
    Spoils (c :: cs) := by
  intro rest boundary
  obtain ⟨ts, reason, mid, scans⟩ := later rest boundary
  exact ⟨t :: ts, reason, mid, .cons (token?_punctuation mark (cs ++ rest)) scans⟩

end Spoils

theorem Reads.spoils {cs ds : List Char} {ts : List Token} (reads : Reads cs ts)
    (opens : Opens ds) (later : Spoils ds) : Spoils (cs ++ ds) := by
  intro rest boundary
  obtain ⟨us, reason, mid, scans⟩ := later rest boundary
  refine ⟨ts ++ us, reason, mid, ?_⟩
  rw [List.append_assoc, List.append_assoc]
  exact (reads _ (opens rest boundary)).append scans

theorem spoils_step {step : Step} (illegible : step.isLegible = false) :
    Spoils step.text.toList := by
  cases step with
  | field name =>
    unfold Step.isLegible at illegible
    unfold Step.text
    dsimp only at illegible ⊢
    split at illegible
    · next plain =>
      rw [if_pos plain]
      intro rest _
      obtain ⟨t, reason, mid, scans⟩ := scans_doubled plain illegible rest
      exact ⟨[t], reason, mid, scans⟩
    · next bracketed =>
      rw [if_neg bracketed, toList_bracketed]
      refine .punctuation rfl fun rest _ => ?_
      obtain ⟨reason, first⟩ := token?_quote_invalid illegible ([']'] ++ rest)
      rw [List.append_assoc]
      exact ⟨[], reason, _, .single first⟩
  | _ => cases illegible

theorem spoils_tailStep {step : Step} (illegible : step.isLegible = false) :
    Spoils step.tailText.toList := by
  have head := spoils_step illegible
  cases step with
  | field name =>
    unfold Step.tailText
    dsimp only
    split
    · next plain =>
      rw [Step.text, if_pos plain] at head
      rw [String.toList_append]
      exact .punctuation rfl head
    · exact head
  | _ => cases illegible

variable {path : Path}

theorem spoils_tailSteps (illegible : path.isLegible = false)
    (fits : ∀ step ∈ path, step.IndexFits) : Spoils (Path.tailText path).toList := by
  induction path with
  | nil => cases illegible
  | cons step rest ih =>
    obtain ⟨small, others⟩ := List.forall_mem_cons.mp fits
    rw [toList_tailText_cons]
    cases legible : step.isLegible with
    | false => exact (spoils_tailStep legible).append (opens_tailSteps rest)
    | true =>
      rw [Path.isLegible, List.all_cons, legible, Bool.true_and] at illegible
      exact (reads_tailStep (readsBack_of_legible legible) small).spoils (opens_tailSteps rest)
        (ih illegible others)

theorem spoils_path (illegible : path.isLegible = false)
    (fits : ∀ step ∈ path, step.IndexFits) : Spoils (Path.text path).toList := by
  cases path with
  | nil => cases illegible
  | cons step rest =>
    obtain ⟨small, others⟩ := List.forall_mem_cons.mp fits
    rw [Path.text, String.toList_append]
    cases legible : step.isLegible with
    | false => exact (spoils_step legible).append (opens_tailSteps rest)
    | true =>
      rw [Path.isLegible, List.all_cons, legible, Bool.true_and] at illegible
      exact (reads_step (readsBack_of_legible legible) small).spoils (opens_tailSteps rest)
        (spoils_tailSteps illegible others)

end Lexer

open Lexer

/-! ### Sources of one path -/

/-- The assertion that a path leads to something. -/
def AssertionTree.existence (path : Path) : AssertionTree :=
  .leaf ⟨none, ⟨.exists, []⟩, .path path, none⟩

namespace Specification

variable {path : Path}

theorem text_existence (path : Path) :
    (AssertionTree.existence path).text = "exists(" ++ Path.text path ++ ")" := by
  have opening : "exists(" = "exists" ++ "(" := rfl
  rw [opening]
  simp [AssertionTree.existence, AssertionTree.text, Assertion.text, Assertion.quantifierText,
    Form.name, Operand.text]

theorem parse_existence (legible : path.isLegible = true)
    (fits : ∀ step ∈ path, step.IndexFits) :
    parse ("exists(" ++ Path.text path ++ ")") = .ok ⟨[], .existence path⟩ := by
  rw [← text_existence]
  refine parse_text (.leaf _) ?_ ?_ ?_ (Nat.zero_le _)
  all_goals
    intro a leaf
    obtain rfl := List.mem_singleton.mp leaf
  · exact .exists path
  · refine ⟨fun step member => readsBack_of_legible ?_, by simp, by simp⟩
    exact List.all_eq_true.mp legible step member
  · exact ⟨fits, by simp⟩

theorem not_parsed_existence (illegible : path.isLegible = false)
    (fits : ∀ step ∈ path, step.IndexFits) (spec : Specification) :
    parse ("exists(" ++ Path.text path ++ ")") ≠ .ok spec := by
  have word : Reads "exists".toList [.identifier "exists"] := reads_form .exists
  have inner : Spoils ('(' :: ((Path.text path).toList ++ [')'])) :=
    .punctuation rfl ((spoils_path illegible fits).append (opens_cons (by decide) []))
  have whole := word.spoils (opens_cons (by decide) _) inner
  obtain ⟨ts, reason, mid, scans⟩ := whole [] boundary_nil
  have text : ("exists(" ++ Path.text path ++ ")").toList =
      "exists".toList ++ '(' :: ((Path.text path).toList ++ [')']) := by
    simp
  rw [List.append_nil, ← text] at scans
  exact not_parsed_of_invalid scans

/-- The text of each path of a source is parsed as that path, or it is not parsed at all. -/
theorem parse_pathText {source : String} {spec : Specification} (read : parse source = .ok spec)
    (has : spec.HasPath path) :
    (path.isLegible = true →
        parse ("exists(" ++ Path.text path ++ ")") = .ok ⟨[], .existence path⟩) ∧
      (path.isLegible = false →
        ∀ other, parse ("exists(" ++ Path.text path ++ ")") ≠ .ok other) := by
  have fits := has.indexFits read
  exact ⟨fun legible => parse_existence legible fits,
    fun illegible => not_parsed_existence illegible fits⟩

/-- Two joiners apart, a blank in quotes, and two joiners in a row in quotes. -/
def keyed : Specification :=
  ⟨[], .and [.existence [.field "a-b:c", .field "c d", .index 0], .existence [.field "a--b"]]⟩

theorem leaf_existence {ts : List Token} (steps : Rules.PathFrom ts path) :
    Rules.Leaf [] (.identifier "exists" :: .leftParen :: (ts ++ [.rightParen]))
      ⟨none, ⟨.exists, []⟩, .path path, none⟩ := by
  have operand : Rules.OneOperand [] ts (.path path) := .path steps (by simp)
  have leaf := Rules.Leaf.intro operand .none (.exists path)
  simpa [Rules.argumentTokens, Form.name] using leaf

theorem parse_keyed : parse "exists(a-b:c[\"c d\"][0]) and exists([\"a--b\"])" = .ok keyed := by
  have first : Rules.PathFrom [.identifier "a-b:c", .leftBracket, .string "c d", .rightBracket,
      .leftBracket, .integer 0, .rightBracket] [.field "a-b:c", .field "c d", .index 0] :=
    .head (.field _) (.cons (.key (.field _)) (.cons (.key (.index 0)) .nil))
  have second : Rules.PathFrom [.leftBracket, .string "a--b", .rightBracket] [.field "a--b"] :=
    .head (.key (.field _)) .nil
  have statement : Rules.Disjunction [] maxNesting _ keyed.assertions :=
    ⟨_, .last (.more (.leaf (leaf_existence first)) (.last (.leaf (leaf_existence second)))), rfl⟩
  refine parse_iff_source.mpr ⟨_, ?_, .intro .nil (.last statement) (by simp)⟩
  decide +kernel

theorem parse_pathText_keyed :
    let legible : Path := [.field "a-b:c", .field "c d", .index 0]
    let doubled : Path := [.field "a--b"]
    keyed.HasPath legible ∧ keyed.HasPath doubled ∧
      Path.text legible = "a-b:c[\"c d\"][0]" ∧ Path.text doubled = "a--b" ∧
      parse ("exists(" ++ Path.text legible ++ ")") = .ok ⟨[], .existence legible⟩ ∧
      ∀ other, parse ("exists(" ++ Path.text doubled ++ ")") ≠ .ok other := by
  intro legible doubled
  have first : keyed.HasPath legible :=
    .operand (a := ⟨none, ⟨.exists, []⟩, .path legible, none⟩) List.mem_cons_self List.mem_cons_self
  have second : keyed.HasPath doubled :=
    .operand (a := ⟨none, ⟨.exists, []⟩, .path doubled, none⟩)
      (List.mem_cons_of_mem _ List.mem_cons_self) List.mem_cons_self
  exact ⟨first, second, by decide +kernel, by decide +kernel,
    (parse_pathText parse_keyed first).1 (by decide +kernel),
    (parse_pathText parse_keyed second).2 (by decide +kernel)⟩

/-- In quotes a name may have two joiners in a row, but its text has no quotes. -/
theorem pathText_not_parsed :
    ¬ ∀ (source : String) (spec : Specification) (path : Path), parse source = .ok spec →
        spec.HasPath path →
        parse ("exists(" ++ Path.text path ++ ")") = .ok ⟨[], .existence path⟩ := by
  intro every
  have has : keyed.HasPath [.field "a--b"] :=
    .operand (a := ⟨none, ⟨.exists, []⟩, .path [.field "a--b"], none⟩)
      (List.mem_cons_of_mem _ List.mem_cons_self) List.mem_cons_self
  have read := every _ keyed _ parse_keyed has
  exact not_parsed_existence (by decide +kernel) (by simp [Step.IndexFits]) _ read

end Specification

end Attest
