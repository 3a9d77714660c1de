import Attest.Proofs.Language.Numerals
import Attest.Proofs.Language.Strings
import Attest.Proofs.Syntax.Sources
import Attest.Proofs.Syntax.Written
/-!
# Round trip

The text of a tree is scanned as the tokens that stand for the tree, and so it is parsed as that
tree again.
-/

namespace Attest

/-! ### Parts that read back -/

/-- The text of a field name is read as that name. -/
def Step.ReadsBack : Step → Prop
  | .field name => ReadsAs (Step.field name).text (Step.field name).tokens
  | _ => True

/-- An index is within the range of integers. -/
def Step.IndexFits : Step → Prop
  | .index position => (position : Int) ≤ Number.maxInteger
  | _ => True

def Literal.ReadsBack (value : Literal) : Prop :=
  ReadsAs value.text [value.token]

namespace Operand

def ReadsBack : Operand → Prop
  | .path steps => ∀ step ∈ steps, step.ReadsBack
  | .variable name steps => ReadsAs ("$" ++ name) [.variable name] ∧ ∀ step ∈ steps, step.ReadsBack
  | .literal value => value.ReadsBack

def steps : Operand → Path
  | .path steps => steps
  | .variable _ steps => steps
  | .literal _ => []

end Operand

namespace Assertion

/-- Each field name, variable name and literal of the assertion reads back. -/
structure ReadsBack (a : Assertion) : Prop where
  left : a.left.ReadsBack
  right : ∀ right ∈ a.right, right.ReadsBack
  arguments : ∀ value ∈ a.predicate.arguments, value.ReadsBack

/-- Each index of the assertion is within the range of integers. -/
structure IndicesFit (a : Assertion) : Prop where
  left : ∀ step ∈ a.left.steps, step.IndexFits
  right : ∀ right ∈ a.right, ∀ step ∈ right.steps, step.IndexFits

end Assertion

namespace Lexer

/-! ### Literals -/

theorem reads_literal {value : Literal} (back : value.ReadsBack) :
    Reads value.text.toList [value.token] := by
  cases value with
  | null => exact .name (by decide) (by decide)
  | boolean value => cases value <;> exact .name (by decide) (by decide)
  | integer value =>
    have solid := solid_integer value
    exact .number solid rfl (token?_of_readsAs solid back)
  | float value =>
    have solid : (Literal.float value).text.toList.all isSolid := solid_float value
    exact .number solid rfl (token?_of_readsAs solid back)
  | string value =>
    obtain ⟨rest, scans, _⟩ := readsAs_iff.mp back
    cases scans with
    | cons first _ =>
      rw [← List.append_nil (Literal.string value).text.toList] at first
      exact .string first

/-! ### Steps and paths -/

theorem reads_bracketed {cs : List Char} {t : Token} (inner : Reads cs [t]) :
    Reads ('[' :: (cs ++ [']'])) [.leftBracket, t, .rightBracket] := by
  have close : Reads [']'] [.rightBracket] := .punctuation rfl .nil
  exact .punctuation rfl (inner.append (opens_cons (by decide) _) close)

theorem start_of_isPlainName {name : String} (plain : isPlainName name) :
    name.toList.head?.any isNameStart := by
  simp only [isPlainName, Bool.and_eq_true] at plain
  exact plain.1.1.1

theorem toList_bracketed (text : String) :
    ("[" ++ text ++ "]").toList = '[' :: (text.toList ++ [']']) := by
  rw [String.toList_append, String.toList_append]
  rfl

theorem reads_quotedField {name : String}
    (back : ReadsAs ("[" ++ Text.quote name ++ "]") [.leftBracket, .string name, .rightBracket]) :
    Reads (Text.quote name).toList [.string name] := by
  obtain ⟨rest, scans, _⟩ := readsAs_iff.mp back
  rw [toList_bracketed] at scans
  cases scans with
  | cons bracket scans =>
    rw [token?_punctuation rfl, Option.some.injEq, Prod.mk.injEq] at bracket
    cases scans with
    | cons first _ =>
      rw [← bracket.2] at first
      exact .string first

theorem reads_step {step : Step} (back : step.ReadsBack) (fits : step.IndexFits) :
    Reads step.text.toList step.tokens := by
  cases step with
  | field name =>
    unfold Step.ReadsBack at back
    unfold Step.text Step.tokens at back ⊢
    dsimp only at back ⊢
    split at back
    · next plain =>
      rw [if_pos plain, if_pos plain]
      exact .identifier (start_of_isPlainName plain) back
    · next bracketed =>
      rw [if_neg bracketed, if_neg bracketed, toList_bracketed]
      exact reads_bracketed (reads_quotedField back)
  | index position =>
    rw [Step.text, toList_bracketed]
    exact reads_bracketed (.index fits)
  | wildcard =>
    have star : Reads ['*'] [.star] := .punctuation rfl .nil
    exact reads_bracketed star

theorem reads_tailStep {step : Step} (back : step.ReadsBack) (fits : step.IndexFits) :
    Reads step.tailText.toList step.tailTokens := by
  have head := reads_step back fits
  cases step with
  | field name =>
    unfold Step.tailText Step.tailTokens
    dsimp only
    split
    · next plain =>
      rw [Step.text, Step.tokens, if_pos plain, if_pos plain] at head
      rw [String.toList_append]
      exact .punctuation rfl head
    · exact head
  | index position => exact head
  | wildcard => exact head

theorem opens_tailStep (step : Step) : Opens step.tailText.toList := by
  have bracket (text : String) : Opens ("[" ++ text ++ "]").toList := by
    rw [toList_bracketed]
    exact opens_cons (by decide) _
  cases step with
  | field name =>
    unfold Step.tailText Step.text
    dsimp only
    split
    · next plain =>
      rw [String.toList_append]
      exact opens_dot (start_of_isPlainName plain)
    · exact bracket _
  | index position => exact bracket _
  | wildcard => exact opens_cons (by decide) _

theorem toList_tailText_cons (step : Step) (steps : Path) :
    (Path.tailText (step :: steps)).toList =
      step.tailText.toList ++ (Path.tailText steps).toList := by
  simp [Path.tailText, String.join_cons]

theorem opens_tailSteps (steps : Path) : Opens (Path.tailText steps).toList := by
  induction steps with
  | nil => exact opens_nil
  | cons step steps ih =>
    rw [toList_tailText_cons]
    exact (opens_tailStep step).append ih

theorem reads_tailSteps {steps : Path} (back : ∀ step ∈ steps, step.ReadsBack)
    (fits : ∀ step ∈ steps, step.IndexFits) :
    Reads (Path.tailText steps).toList (Path.tailTokens steps) := by
  induction steps with
  | nil => exact .nil
  | cons step steps ih =>
    obtain ⟨first, later⟩ := List.forall_mem_cons.mp back
    obtain ⟨small, others⟩ := List.forall_mem_cons.mp fits
    rw [toList_tailText_cons]
    exact (reads_tailStep first small).append (opens_tailSteps steps) (ih later others)

theorem reads_path {steps : Path} (back : ∀ step ∈ steps, step.ReadsBack)
    (fits : ∀ step ∈ steps, step.IndexFits) :
    Reads (Path.text steps).toList (Path.tokens steps) := by
  cases steps with
  | nil => exact .dollar
  | cons step steps =>
    obtain ⟨first, later⟩ := List.forall_mem_cons.mp back
    obtain ⟨small, others⟩ := List.forall_mem_cons.mp fits
    rw [Path.text, String.toList_append]
    exact (reads_step first small).append (opens_tailSteps steps) (reads_tailSteps later others)

theorem reads_operand {operand : Operand} (back : operand.ReadsBack)
    (fits : ∀ step ∈ operand.steps, step.IndexFits) : Reads operand.text.toList operand.tokens := by
  match operand, back with
  | .path steps, back => exact reads_path back fits
  | .variable name steps, ⟨named, later⟩ =>
    have text : (Operand.variable name steps).text.toList =
        '$' :: name.toList ++ (Path.tailText steps).toList := by
      rw [Operand.text, String.toList_append, String.toList_append]
      rfl
    rw [text]
    exact (Reads.variable named).append (opens_tailSteps steps) (reads_tailSteps later fits)
  | .literal value, back => exact reads_literal back

/-! ### Assertions -/

theorem toList_intercalate_cons (first : String) (rest : List String) :
    (", ".intercalate (first :: rest)).toList =
      first.toList ++ rest.flatMap fun item => ',' :: ' ' :: item.toList := by
  induction rest generalizing first with
  | nil => simp
  | cons next rest ih =>
    rw [String.intercalate_cons_cons, String.toList_append, String.toList_append, ih]
    simp

section

variable {α : Type} {text : α → String} {tokens : α → List Token} {items : List α}

theorem opens_items (items : List α) :
    Opens (items.flatMap fun item => ',' :: ' ' :: (text item).toList) := by
  cases items with
  | nil => exact opens_nil
  | cons item items => exact opens_cons (by decide) _

theorem reads_items (each : ∀ item ∈ items, Reads (text item).toList (tokens item))
    (nonempty : ∀ item ∈ items, tokens item ≠ []) :
    Reads (items.flatMap fun item => ',' :: ' ' :: (text item).toList)
      (items.flatMap fun item => .comma :: tokens item) := by
  induction items with
  | nil => exact .nil
  | cons item items ih =>
    obtain ⟨first, later⟩ := List.forall_mem_cons.mp each
    obtain ⟨here, others⟩ := List.forall_mem_cons.mp nonempty
    have led : Reads (',' :: ' ' :: (text item).toList) (.comma :: tokens item) :=
      .punctuation rfl (first.blank here)
    exact led.append (opens_items items) (ih later others)

end

theorem tokens_ne_nil (operand : Operand) : operand.tokens ≠ [] := by
  match operand with
  | .path [] => exact List.cons_ne_nil _ _
  | .path (step :: rest) =>
    have nonempty : step.tokens ≠ [] := by
      cases step with
      | field name =>
        unfold Step.tokens
        dsimp only
        split <;> exact List.cons_ne_nil _ _
      | index position => exact List.cons_ne_nil _ _
      | wildcard => exact List.cons_ne_nil _ _
    exact fun empty => nonempty (List.append_eq_nil_iff.mp empty).1
  | .variable name steps => exact List.cons_ne_nil _ _
  | .literal value => exact List.cons_ne_nil _ _

theorem reads_form (form : Form) : Reads form.name.toList [.identifier form.name] := by
  cases form <;> exact .name (by decide) (by decide)

theorem reads_quantifier (quantifier : Quantifier) :
    Reads quantifier.text.toList [quantifier.token] := by
  cases quantifier <;> exact .name (by decide) (by decide)

theorem toList_items (a : Assertion) :
    (", ".intercalate ((a.left :: a.right.toList).map Operand.text ++
        a.predicate.arguments.map Literal.text)).toList =
      a.left.text.toList ++
        (a.right.toList.flatMap (fun right => ',' :: ' ' :: right.text.toList) ++
          a.predicate.arguments.flatMap fun value => ',' :: ' ' :: value.text.toList) := by
  rw [List.map_cons, List.cons_append, toList_intercalate_cons, List.flatMap_append,
    List.flatMap_map, List.flatMap_map]

/-- What follows the name of a form is scanned as its operands and arguments in parentheses. -/
theorem reads_items_of_assertion {a : Assertion} (back : a.ReadsBack) (fits : a.IndicesFit) :
    Reads (", ".intercalate ((a.left :: a.right.toList).map Operand.text ++
        a.predicate.arguments.map Literal.text)).toList
      (a.left.tokens ++ (a.right.toList.flatMap (fun right => .comma :: right.tokens) ++
        Rules.argumentTokens a.predicate.arguments)) := by
  have right : ∀ right ∈ a.right.toList, Reads right.text.toList right.tokens := by
    intro right member
    have present := Option.mem_toList.mp member
    exact reads_operand (back.right right present) (fits.right right present)
  have arguments : ∀ value ∈ a.predicate.arguments, Reads value.text.toList [value.token] :=
    fun value member => reads_literal (back.arguments value member)
  have operands := reads_items right fun right _ => tokens_ne_nil right
  have literals := reads_items arguments fun value _ => List.cons_ne_nil _ _
  rw [toList_items]
  refine (reads_operand back.left fits.left).append ?_ (operands.append (opens_items _) literals)
  exact (opens_items _).append (opens_items _)

theorem reads_assertion {a : Assertion} (back : a.ReadsBack) (fits : a.IndicesFit) :
    Reads a.text.toList a.tokens := by
  have close : Reads [')'] [.rightParen] := .punctuation rfl .nil
  have items := (reads_items_of_assertion back fits).append (opens_cons (by decide) _) close
  have inner : Reads ('(' :: _) (.leftParen :: _) := .punctuation rfl items
  have body := (reads_form a.predicate.form).append (opens_cons (by decide) _) inner
  unfold Assertion.text Assertion.tokens
  cases a.quantifier with
  | none => simpa [Assertion.quantifierText] using body
  | some quantifier =>
    have later := body.blank (by simp)
    have led := (reads_quantifier quantifier).append (opens_cons (by decide) _) later
    simpa [Assertion.quantifierText] using led

/-! ### Trees -/

/-- The text of a child, where conjunctions and disjunctions are in parentheses. -/
def groupText (tree : AssertionTree) : String :=
  if tree.followsNot then tree.text else "(" ++ tree.text ++ ")"

theorem reads_group {tree : AssertionTree} (reads : Reads tree.text.toList tree.tokens) :
    Reads (groupText tree).toList (tree.group tree.tokens) := by
  unfold groupText AssertionTree.group
  split
  · exact reads
  · have close : Reads [')'] [.rightParen] := .punctuation rfl .nil
    have text : ("(" ++ tree.text ++ ")").toList = '(' :: (tree.text.toList ++ [')']) := by
      rw [String.toList_append, String.toList_append]
      rfl
    rw [text]
    exact .punctuation rfl (reads.append (opens_cons (by decide) _) close)

theorem group_ne_nil (tree : AssertionTree) : tree.group tree.tokens ≠ [] := by
  cases tree with
  | leaf a =>
    show a.tokens ≠ []
    simp [Assertion.tokens]
  | and children => exact List.cons_ne_nil _ _
  | or children => exact List.cons_ne_nil _ _
  | not child => exact List.cons_ne_nil _ _

theorem joinedTokens_ne_nil {separator : Token} {child : AssertionTree}
    {rest : List AssertionTree} : AssertionTree.joinedTokens separator (child :: rest) ≠ [] := by
  cases rest with
  | nil => exact group_ne_nil child
  | cons next rest => simp [AssertionTree.joinedTokens]

theorem reads_joined {word separator : String} {t : Token} {children : List AssertionTree}
    (spaced : separator.toList = ' ' :: (word.toList ++ [' '])) (reads : Reads word.toList [t])
    (each : ∀ child ∈ children, Reads child.text.toList child.tokens) :
    Reads (AssertionTree.joinedText separator children).toList
      (AssertionTree.joinedTokens t children) := by
  induction children with
  | nil => exact .nil
  | cons child rest ih =>
    obtain ⟨first, later⟩ := List.forall_mem_cons.mp each
    cases rest with
    | nil => exact reads_group first
    | cons next rest =>
      have others := (ih later).blank joinedTokens_ne_nil
      have led := (reads.append (opens_cons (by decide) _) others).blank (by simp)
      have whole := (reads_group first).append (opens_cons (by decide) _) led
      simpa [AssertionTree.joinedText, AssertionTree.joinedTokens, groupText, spaced] using whole

theorem reads_not {child : AssertionTree} (reads : Reads child.text.toList child.tokens) :
    Reads (AssertionTree.not child).text.toList (AssertionTree.not child).tokens := by
  have word : Reads "not".toList [.notWord] := .name (by decide) (by decide)
  have inner := (reads_group reads).blank (group_ne_nil child)
  have text :
      (AssertionTree.not child).text.toList = "not".toList ++ ' ' :: (groupText child).toList := by
    unfold AssertionTree.text groupText
    split <;> simp
  rw [text]
  exact word.append (opens_cons (by decide) _) inner

theorem reads_tree {tree : AssertionTree}
    (back : ∀ a ∈ tree.leaves, a.ReadsBack ∧ a.IndicesFit) :
    Reads tree.text.toList tree.tokens := by
  induction tree with
  | leaf a =>
    obtain ⟨names, fits⟩ := back a (by simp [AssertionTree.leaves])
    exact reads_assertion names fits
  | and children ih =>
    have word : Reads "and".toList [.andWord] := .name (by decide) (by decide)
    refine reads_joined rfl word fun child member => ih child member fun a leaf => back a ?_
    exact AssertionTree.mem_leavesOf.mpr ⟨child, member, leaf⟩
  | or children ih =>
    have word : Reads "or".toList [.orWord] := .name (by decide) (by decide)
    refine reads_joined rfl word fun child member => ih child member fun a leaf => back a ?_
    exact AssertionTree.mem_leavesOf.mpr ⟨child, member, leaf⟩
  | not child ih => exact reads_not (ih back)

end Lexer

open Lexer

/-! ### Specifications -/

instance (text : String) (ts : List Token) : Decidable (ReadsAs text ts) :=
  inferInstanceAs (Decidable (_ = _))

theorem ReadsAs.sourceTokens {text : String} {ts : List Token} (reads : ReadsAs text ts) :
    sourceTokens (lex text) = ts := by
  obtain ⟨rest, scans, _⟩ := readsAs_iff.mp reads
  have more : ∀ t ∈ ts, decide (t ≠ .endOfInput) := by
    intro t member
    exact decide_eq_true (scans.ne_endOfInput t member)
  unfold Attest.sourceTokens
  rw [reads, List.takeWhile_append_of_pos more]
  simp

theorem readsAs_text {tree : AssertionTree}
    (back : ∀ a ∈ tree.leaves, a.ReadsBack ∧ a.IndicesFit) :
    ReadsAs tree.text tree.tokens := by
  have scans := reads_tree back [] boundary_nil
  rw [List.append_nil] at scans
  exact readsAs_iff.mpr ⟨[], scans, rfl⟩

/-- A tree is parsed from its text. -/
theorem Specification.parse_text {tree : AssertionTree} (branching : tree.Branching)
    (wellFormed : ∀ a ∈ tree.leaves, a.WellFormed) (back : ∀ a ∈ tree.leaves, a.ReadsBack)
    (fits : ∀ a ∈ tree.leaves, a.IndicesFit) (shallow : tree.nesting ≤ maxNesting) :
    parse tree.text = .ok ⟨[], tree⟩ := by
  have derived := Rules.source_of_tokens branching wellFormed shallow
  have reads := readsAs_text fun a leaf => ⟨back a leaf, fits a leaf⟩
  refine ofLexemes_of_source ?_
  rw [reads.sourceTokens]
  exact derived

theorem Assertion.WellFormed.exists (steps : Path) :
    Assertion.WellFormed ⟨none, ⟨.exists, []⟩, .path steps, none⟩ where
  operands := rfl
  arguments := rfl
  admitted := by simp
  unquantified := fun _ => rfl
  counted := by
    intro _ value same
    cases same

theorem Assertion.WellFormed.size (name : String) (steps : Path) (count : Nat) :
    Assertion.WellFormed ⟨none, ⟨.size, [.integer count]⟩, .variable name steps, none⟩ where
  operands := rfl
  arguments := rfl
  admitted := List.forall_mem_cons.mpr ⟨⟨count, rfl⟩, by simp⟩
  unquantified := fun _ => rfl
  counted := by
    intro _ value same
    cases same

/-- A path by fields and an index, and an argument under a negation. -/
def AssertionTree.sample : AssertionTree :=
  .or [
    .leaf ⟨none, ⟨.exists, []⟩, .path [.field "a", .field "b c", .index 0], none⟩,
    .not (.leaf ⟨none, ⟨.size, [.integer 2]⟩, .variable "v" [.wildcard], none⟩)]

theorem Specification.parse_sample_text :
    AssertionTree.sample.Branching ∧ AssertionTree.sample.nesting ≤ maxNesting ∧
      parse AssertionTree.sample.text = .ok ⟨[], AssertionTree.sample⟩ := by
  have branching : AssertionTree.sample.Branching := by
    refine .or (by decide) ?_
    simp only [List.forall_mem_cons]
    exact ⟨.leaf _, .not (.leaf _), by simp⟩
  have shallow : AssertionTree.sample.nesting ≤ maxNesting := by decide
  refine ⟨branching, shallow, parse_text branching ?_ ?_ ?_ shallow⟩
  all_goals
    simp only [AssertionTree.sample, AssertionTree.leaves, AssertionTree.leavesOf, List.append_nil,
      List.cons_append, List.nil_append, List.forall_mem_cons]
  · exact ⟨.exists _, .size _ _ 2, by simp⟩
  · refine ⟨⟨?_, by simp, by simp⟩, ⟨?_, by simp, ?_⟩, by simp⟩
    · simp only [Operand.ReadsBack, List.forall_mem_cons]
      refine ⟨?_, ?_, trivial, by simp⟩ <;> unfold Step.ReadsBack <;> decide +kernel
    · refine ⟨by decide +kernel, ?_⟩
      exact List.forall_mem_cons.mpr ⟨trivial, by simp⟩
    · refine List.forall_mem_cons.mpr ⟨?_, by simp⟩
      unfold Literal.ReadsBack
      decide +kernel
  · refine ⟨⟨?_, by simp⟩, ⟨?_, by simp⟩, by simp⟩
    · simp only [Operand.steps, List.forall_mem_cons]
      exact ⟨trivial, trivial, by unfold Step.IndexFits; decide, by simp⟩
    · exact List.forall_mem_cons.mpr ⟨trivial, by simp⟩

/-- An index beyond the range of integers is no token, so its text is not parsed. -/
theorem Specification.parse_text_needs_small_indices :
    ¬ ∀ tree : AssertionTree, tree.Branching → (∀ a ∈ tree.leaves, a.WellFormed) →
        (∀ a ∈ tree.leaves, a.ReadsBack) → tree.nesting ≤ maxNesting →
        parse tree.text = .ok ⟨[], tree⟩ := by
  intro every
  let tree : AssertionTree := .leaf ⟨none, ⟨.exists, []⟩, .path [.index 9223372036854775808], none⟩
  have read := every tree (.leaf _) ?_ ?_ (by decide)
  · have fails : (parse tree.text).toOption.isNone := by decide +kernel
    rw [read] at fails
    cases fails
  · exact List.forall_mem_cons.mpr ⟨.exists _, by simp⟩
  · refine List.forall_mem_cons.mpr ⟨⟨?_, by simp, by simp⟩, by simp⟩
    exact List.forall_mem_cons.mpr ⟨trivial, by simp⟩

end Attest
