import Attest.Proofs.Syntax.LiteralTexts
/-!
# Texts of specifications

A specification is written as its declarations, each on a line of its own, and the text of its tree.
It is parsed from there with the same declarations, but the text of a path does not tell whether the
path begins at the root: one that begins with a declared name is read as steps from the variable.
-/

namespace Attest

open Lexer

/-! ### Operands among declared names -/

namespace Operand

variable {declared : List String} {operand : Operand}

/-- What the text of an operand stands for where names are declared. -/
def reread (declared : List String) : Operand → Operand
  | .path (.field name :: rest) =>
    if name ∈ declared then .variable name rest else .path (.field name :: rest)
  | operand => operand

/-- A path from the root that begins with a declared name. -/
def IsShadowed (declared : List String) : Operand → Prop
  | .path (.field name :: _) => name ∈ declared
  | _ => False

theorem reread_eq_self : operand.reread declared = operand ↔ ¬ operand.IsShadowed declared := by
  unfold reread IsShadowed
  split
  · split
    · next known => exact iff_of_false nofun (not_not_intro known)
    · next unknown => exact iff_of_true rfl unknown
  · exact iff_of_true rfl not_false

theorem path_derives {steps : Path}
    (unknown : ∀ name ∈ declared, (Path.tokens steps).head? ≠ some (.identifier name)) :
    Rules.OneOperand declared (path steps).tokens (.path steps) :=
  .path (Rules.pathTokens_derive steps) unknown

theorem rereads_reread (plain : ∀ name ∈ declared, isPlainName name = true) :
    Rules.Rereads declared (reread declared) where
  literal same := by
    unfold reread at same
    split at same
    · split at same <;> cases same
    · exact same
  derives operand := by
    match operand with
    | .literal value => exact .literal value
    | .variable name steps => exact .variable name (Rules.stepsTokens_derive steps)
    | .path [] => exact path_derives (by simp [Path.tokens])
    | .path (.index position :: rest) => exact path_derives (by simp [Path.tokens, Step.tokens])
    | .path (.wildcard :: rest) => exact path_derives (by simp [Path.tokens, Step.tokens])
    | .path (.field name :: rest) =>
      unfold reread
      dsimp only
      split
      · next known =>
        rw [tokens, Path.tokens, Step.tokens, if_pos (plain name known)]
        exact .declared known (Rules.stepsTokens_derive rest)
      · next unknown =>
        refine path_derives fun other known same => ?_
        rw [Path.tokens, Step.tokens] at same
        split at same
        · cases same
          exact unknown known
        · cases same

end Operand

namespace Specification

def declared (spec : Specification) : List String :=
  spec.declarations.map (·.name)

/-- The declarations, each on a line of its own, and the text of the tree. -/
def text (spec : Specification) : String :=
  String.join (spec.declarations.map fun d => d.text ++ ";\n") ++ spec.assertions.text

/-- What the text of a specification stands for. -/
def reread (spec : Specification) : Specification :=
  ⟨spec.declarations, spec.assertions.mapOperands (Operand.reread spec.declared)⟩

/-- Some path from the root begins with a declared name. -/
def Shadows (spec : Specification) : Prop :=
  ∃ a ∈ spec.assertions.leaves, ∃ operand ∈ a.operands, operand.IsShadowed spec.declared

theorem reread_eq_self {spec : Specification} : spec.reread = spec ↔ ¬ spec.Shadows := by
  obtain ⟨ds, tree⟩ := spec
  rw [reread, Specification.mk.injEq, AssertionTree.mapOperands_eq_self]
  simp only [Operand.reread_eq_self, Shadows, not_exists, not_and, true_and]

/-! ### Scanned texts -/

theorem toList_declaration (d : Declaration) :
    (d.text ++ ";\n").toList =
      "let".toList ++ ' ' :: (d.name.toList ++ ' ' :: '=' :: ' ' ::
        ((Path.text d.path).toList ++ [';', '\n'])) := by
  simp [Declaration.text]

/-- A declaration and its line end are scanned before whatever is scanned behind them. -/
theorem reads_declaration {d : Declaration} {cs : List Char} {ts : List Token}
    (named : Reads d.name.toList [.identifier d.name])
    (path : Reads (Path.text d.path).toList (Path.tokens d.path)) (later : Reads cs ts)
    (nonempty : ts ≠ []) : Reads ((d.text ++ ";\n").toList ++ cs) (d.tokens ++ ts) := by
  have word : Reads "let".toList [.letWord] := .name (by decide) (by decide)
  have behind : Reads (';' :: '\n' :: cs) (.semicolon :: ts) :=
    .punctuation rfl (later.skip (by decide) nonempty)
  have bound := path.append (opens_cons (by decide) _) behind
  have equals : Reads ('=' :: ' ' :: _) (.equals :: _) := .punctuation rfl (bound.blank (by simp))
  have assigned := named.append (opens_cons (by decide) _) (equals.blank (by simp))
  have whole := word.append (opens_cons (by decide) _) (assigned.blank (by simp))
  rw [toList_declaration]
  simpa [Declaration.tokens] using whole

theorem reads_declarations {ds : List Declaration} {cs : List Char} {ts : List Token}
    (each : ∀ d ∈ ds, Reads d.name.toList [.identifier d.name] ∧
      Reads (Path.text d.path).toList (Path.tokens d.path))
    (later : Reads cs ts) (nonempty : ts ≠ []) :
    Reads ((String.join (ds.map fun d => d.text ++ ";\n")).toList ++ cs)
      (ds.flatMap Declaration.tokens ++ ts) := by
  induction ds with
  | nil => exact later
  | cons d ds ih =>
    obtain ⟨⟨named, path⟩, others⟩ := List.forall_mem_cons.mp each
    have rest := ih others
    rw [List.map_cons, String.join_cons, String.toList_append, List.append_assoc,
      List.flatMap_cons, List.append_assoc]
    exact reads_declaration named path rest (by simp [nonempty])

/-! ### Parts that were read -/

/-- Each path and each literal of the specification is legible. -/
structure IsLegible (spec : Specification) : Prop where
  paths (path : Path) (has : spec.HasPath path) : Path.isLegible path = true
  literals (value : Literal) (has : spec.HasLiteral value) : value.IsLegible

section

variable {source : String} {spec : Specification}

theorem HasPath.readsBack {path : Path} (has : spec.HasPath path) (legible : spec.IsLegible) :
    ∀ step ∈ path, step.ReadsBack := by
  intro step member
  exact readsBack_of_legible (List.all_eq_true.mp (legible.paths path has) step member)

theorem HasLiteral.readsBack {value : Literal} (has : spec.HasLiteral value)
    (read : parse source = .ok spec) (legible : spec.IsLegible) : value.ReadsBack :=
  Literal.readsBack_of_legible (has.lexed read) (legible.literals value has)

variable {a : Assertion} {operand : Operand}

theorem word_of_variable (read : parse source = .ok spec) (inside : a ∈ spec.assertions.leaves)
    {name : String} {steps : Path} (member : .variable name steps ∈ a.operands) : IsWord name := by
  obtain ⟨ts, reads, derived⟩ := parse_iff_source.mp read
  have lexed := lexed_of_readsAs reads
  rcases (derived.operand inside _ member).1 with sign | bare
  · exact lexed _ sign
  · exact (lexed _ bare).1

theorem operand_readsBack (read : parse source = .ok spec) (legible : spec.IsLegible)
    (inside : a ∈ spec.assertions.leaves) (member : operand ∈ a.operands) :
    operand.ReadsBack := by
  match operand with
  | .path steps => exact (HasPath.operand inside member).readsBack legible
  | .variable name steps =>
    have word := Reads.variableWord (word_of_variable read inside member)
    refine ⟨Reads.readsAs ?_, (HasPath.behind inside member).readsBack legible⟩
    rw [String.toList_append]
    exact word
  | .literal value => exact (HasLiteral.operand inside member).readsBack read legible

theorem operand_indexFits (read : parse source = .ok spec) (inside : a ∈ spec.assertions.leaves)
    (member : operand ∈ a.operands) : ∀ step ∈ operand.steps, step.IndexFits := by
  match operand with
  | .path steps => exact (HasPath.operand inside member).indexFits read
  | .variable name steps => exact (HasPath.behind inside member).indexFits read
  | .literal value => simp [Operand.steps]

theorem leaf_readsBack (read : parse source = .ok spec) (legible : spec.IsLegible)
    (inside : a ∈ spec.assertions.leaves) : a.ReadsBack where
  left := operand_readsBack read legible inside List.mem_cons_self
  right _ present := operand_readsBack read legible inside
    (List.mem_cons_of_mem _ (Option.mem_toList.mpr present))
  arguments _ member := (HasLiteral.argument inside member).readsBack read legible

theorem leaf_indicesFit (read : parse source = .ok spec) (inside : a ∈ spec.assertions.leaves) :
    a.IndicesFit where
  left := operand_indexFits read inside List.mem_cons_self
  right _ present := operand_indexFits read inside
    (List.mem_cons_of_mem _ (Option.mem_toList.mpr present))

theorem declared_word (read : parse source = .ok spec) :
    ∀ d ∈ spec.declarations, IsWord d.name ∧ keyword? d.name = none := by
  obtain ⟨ts, reads, derived⟩ := parse_iff_source.mp read
  intro d member
  exact lexed_of_readsAs reads _ (derived.declaration d member).1

/-! ### Round trip -/

theorem tokens_ne_nil {tree : AssertionTree} (branching : tree.Branching) : tree.tokens ≠ [] := by
  cases branching with
  | leaf a => simp [AssertionTree.tokens, Assertion.tokens]
  | not inner => exact List.cons_ne_nil _ _
  | and several _ | or several _ =>
    obtain ⟨child, rest, rfl⟩ := List.exists_cons_of_ne_nil (Rules.ne_nil_of_several several)
    exact joinedTokens_ne_nil

theorem readsAs_text (read : parse source = .ok spec) (legible : spec.IsLegible) :
    ReadsAs spec.text spec.tokens := by
  have tree : Reads spec.assertions.text.toList spec.assertions.tokens :=
    reads_tree fun a inside => ⟨leaf_readsBack read legible inside, leaf_indicesFit read inside⟩
  obtain ⟨ts, _, derived⟩ := parse_iff_source.mp read
  refine Reads.readsAs ?_
  rw [text, String.toList_append]
  refine reads_declarations (fun d member => ?_) tree (tokens_ne_nil derived.branching)
  obtain ⟨word, free⟩ := declared_word read d member
  have has : spec.HasPath d.path := .declaration member
  exact ⟨.word word free, reads_path (has.readsBack legible) (has.indexFits read)⟩

/-- The text of a legible specification is parsed as what it stands for. -/
theorem parse_text_of_legible (read : parse source = .ok spec) (legible : spec.IsLegible)
    (shallow : spec.assertions.nesting ≤ maxNesting) : parse spec.text = .ok spec.reread := by
  obtain ⟨ts, _, derived⟩ := parse_iff_source.mp read
  have plain : ∀ name ∈ spec.declared, isPlainName name = true := by
    refine List.forall_mem_map.mpr fun d member => ?_
    obtain ⟨word, free⟩ := declared_word read d member
    exact isPlainName_of_word word free
  have wellFormed : ∀ a ∈ spec.assertions.leaves, a.WellFormed := by
    intro a inside
    obtain ⟨us, leaf, _⟩ := derived.derives a inside
    exact leaf.wellFormed
  have source := Rules.source_of_written spec (Operand.rereads_reread plain) derived.branching
    wellFormed shallow
  exact parse_iff_source.mpr ⟨spec.tokens, readsAs_text read legible, source⟩

end

/-! ### Bare names -/

/-- The field names are names without joiners, or keywords, and the literals are integers. -/
structure IsBare (spec : Specification) : Prop where
  names (path : Path) (has : spec.HasPath path) :
    ∀ name, .field name ∈ path →
      name.toList.head?.any isNameStart = true ∧ name.toList.all isNameChar = true
  literals (value : Literal) (has : spec.HasLiteral value) : ∃ n, value = .integer n

/-- A name without joiners that is written in brackets is a keyword. -/
theorem isLegible_of_bare {name : String} (start : name.toList.head?.any isNameStart = true)
    (chars : name.toList.all isNameChar = true) : (Step.field name).isLegible = true := by
  have each := List.all_eq_true.mp chars
  have word : IsWord name := ⟨start, nameFrom_of_chars each false⟩
  unfold Step.isLegible
  dsimp only
  split
  · exact joinersApart_of_none fun c member => not_isJoiner_of_isNameChar (each c member)
  · next bracketed =>
    cases known : keyword? name with
    | none => exact absurd (isPlainName_of_word word known) bracketed
    | some t => exact Text.quotable_keyword known

theorem IsBare.isLegible {spec : Specification} (bare : spec.IsBare) : spec.IsLegible where
  paths path has := by
    refine List.all_eq_true.mpr fun step member => ?_
    cases step with
    | field name =>
      obtain ⟨start, chars⟩ := bare.names path has name member
      exact isLegible_of_bare start chars
    | index | wildcard => rfl
  literals value has := by
    obtain ⟨n, rfl⟩ := bare.literals value has
    trivial

/-- The text of a specification with bare names is parsed, with the same declarations and with the
same tree, but that a path from the root which begins with a declared name is read as steps from the
variable. So it is parsed as the specification itself exactly if there is no such path. -/
theorem parse_sourceText {source : String} {spec : Specification} (read : parse source = .ok spec)
    (bare : spec.IsBare) (shallow : spec.assertions.nesting ≤ maxNesting) :
    parse spec.text = .ok spec.reread ∧ (parse spec.text = .ok spec ↔ ¬ spec.Shadows) := by
  have again := parse_text_of_legible read bare.isLegible shallow
  refine ⟨again, ?_⟩
  rw [again, Except.ok.injEq, reread_eq_self]

/-- A path from the root that begins with a declared name, and goes on with a keyword. -/
def shadowing : Specification :=
  ⟨[⟨"a", [.field "b"]⟩],
    .leaf ⟨none, ⟨.equals, []⟩, .path [.field "a", .field "let"], some (.literal (.integer 2))⟩⟩

theorem parse_shadowing : parse "let a = b; equals($.a[\"let\"], 2)" = .ok shadowing := by
  have bound : Rules.Declarations [.letWord, .identifier "a", .equals, .identifier "b", .semicolon]
      shadowing.declarations :=
    .cons "a" (.head (.field "b") .nil) .nil
  have path : Rules.PathFrom [.dollar, .dot, .identifier "a", .leftBracket, .string "let",
      .rightBracket] [.field "a", .field "let"] :=
    .root (.cons (.field "a") (.cons (.key (.field "let")) .nil))
  have wellFormed : Assertion.WellFormed ⟨none, ⟨.equals, []⟩, .path [.field "a", .field "let"],
      some (.literal (.integer 2))⟩ :=
    ⟨rfl, rfl, by simp, nofun, nofun⟩
  have left : Rules.OneOperand ["a"] _ (.path [.field "a", .field "let"]) := .path path (by simp)
  have leaf := Rules.Leaf.intro left (.some (.literal (.integer 2))) wellFormed
  have statement : Rules.Disjunction ["a"] maxNesting _ shadowing.assertions :=
    ⟨_, .last (.last (.leaf leaf)), rfl⟩
  refine parse_iff_source.mpr ⟨_, ?_, .intro bound (.last statement) (by simp)⟩
  decide +kernel

theorem paths_shadowing {path : Path} (has : shadowing.HasPath path) :
    path = [.field "b"] ∨ path = [.field "a", .field "let"] := by
  cases has with
  | declaration member =>
    obtain rfl := List.mem_singleton.mp member
    exact .inl rfl
  | operand inside member =>
    obtain rfl := List.mem_singleton.mp inside
    exact .inr (by simpa [Assertion.operands] using member)
  | behind inside member =>
    obtain rfl := List.mem_singleton.mp inside
    simp [Assertion.operands] at member

theorem isBare_shadowing : shadowing.IsBare where
  names path has name member := by
    rcases paths_shadowing has with rfl | rfl
    · obtain rfl : name = "b" := by simpa using member
      decide +kernel
    · rcases (by simpa using member : name = "a" ∨ name = "let") with rfl | rfl <;> decide +kernel
  literals value has := by
    cases has with
    | operand inside member =>
      obtain rfl := List.mem_singleton.mp inside
      exact ⟨2, by simpa [Assertion.operands] using member⟩
    | argument inside member =>
      obtain rfl := List.mem_singleton.mp inside
      cases member

theorem shadows_shadowing : shadowing.Shadows :=
  ⟨_, List.mem_cons_self, _, List.mem_cons_self, List.mem_cons_self⟩

theorem parse_sourceText_shadowing :
    shadowing.IsBare ∧ shadowing.assertions.nesting ≤ maxNesting ∧ shadowing.Shadows ∧
      shadowing.text = "let a = b;\nequals(a[\"let\"], 2)" ∧
      parse shadowing.text = .ok shadowing.reread ∧ parse shadowing.text ≠ .ok shadowing := by
  have shallow : shadowing.assertions.nesting ≤ maxNesting := by decide
  obtain ⟨again, same⟩ := parse_sourceText parse_shadowing isBare_shadowing shallow
  exact ⟨isBare_shadowing, shallow, shadows_shadowing, by decide +kernel, again,
    fun equal => same.mp equal shadows_shadowing⟩

/-- The sign of the root is not written, and the name alone is the variable. -/
theorem sourceText_ambiguous :
    ¬ ∀ (source : String) (spec : Specification), parse source = .ok spec → spec.IsBare →
        spec.assertions.nesting ≤ maxNesting → parse spec.text = .ok spec := by
  intro every
  have equal := every _ shadowing parse_shadowing isBare_shadowing (by decide)
  have again := parse_text_of_legible parse_shadowing isBare_shadowing.isLegible (by decide)
  exact reread_eq_self.mp (Except.ok.inj (again.symm.trans equal)) shadows_shadowing

end Specification

end Attest
