import Mathlib.Data.List.Perm.Basic
import Attest.Proofs.Language.Lookahead
import Attest.Proofs.Syntax.RoundTrip
/-!
# Prefaces

The declarations of a source are texts of their own before its assertions. Written in another order
they declare the same names, so the assertions are read as before.
-/

namespace Attest

open Lexer

namespace Rules

/-! ### Declared names -/

variable {declared others : List String} {room : Nat} {ts us : List Token}

theorem OneOperand.congr {operand : Operand} (same : ∀ name, name ∈ declared ↔ name ∈ others) :
    OneOperand declared ts operand → OneOperand others ts operand
  | .literal value => .literal value
  | .variable name steps => .variable name steps
  | .declared known steps => .declared ((same _).mp known) steps
  | .path steps unknown => .path steps fun name member => unknown name ((same name).mpr member)

theorem Second.congr {right : Option Operand} (same : ∀ name, name ∈ declared ↔ name ∈ others) :
    Second declared ts right → Second others ts right
  | .none => .none
  | .some operand => .some (operand.congr same)

theorem Leaf.congr {a : Assertion} (same : ∀ name, name ∈ declared ↔ name ∈ others) :
    Leaf declared ts a → Leaf others ts a
  | .intro left right wellFormed => .intro (left.congr same) (right.congr same) wellFormed

mutual

theorem Part.congr {room : Nat} {ts : List Token} {tree : AssertionTree}
    (same : ∀ name, name ∈ declared ↔ name ∈ others) :
    Part declared room ts tree → Part others room ts tree
  | .leaf leaf => .leaf (leaf.congr same)
  | .not inner => .not (inner.congr same)
  | .group inner => .group (inner.congr same)

theorem Conjuncts.congr {room : Nat} {ts : List Token} {trees : List AssertionTree}
    (same : ∀ name, name ∈ declared ↔ name ∈ others) :
    Conjuncts declared room ts trees → Conjuncts others room ts trees
  | .last part => .last (part.congr same)
  | .more part rest => .more (part.congr same) (rest.congr same)

theorem Disjuncts.congr {room : Nat} {ts : List Token} {trees : List AssertionTree}
    (same : ∀ name, name ∈ declared ↔ name ∈ others) :
    Disjuncts declared room ts trees → Disjuncts others room ts trees
  | .last conjunction => .last (conjunction.congr same)
  | .more conjunction rest => .more (conjunction.congr same) (rest.congr same)

end

theorem Disjunction.congr {tree : AssertionTree} (same : ∀ name, name ∈ declared ↔ name ∈ others)
    (derived : Disjunction declared room ts tree) : Disjunction others room ts tree := by
  obtain ⟨trees, disjuncts, joined⟩ := derived
  exact ⟨trees, disjuncts.congr same, joined⟩

/-- Of the declared names it counts only which they are. -/
theorem Statements.congr {ts : List Token} {trees : List AssertionTree}
    (same : ∀ name, name ∈ declared ↔ name ∈ others) :
    Statements declared ts trees → Statements others ts trees
  | .nil => .nil
  | .empty rest => .empty (rest.congr same)
  | .last statement => .last (statement.congr same)
  | .cons statement rest => .cons (statement.congr same) (rest.congr same)

/-! ### First tokens -/

/-- No token of a path ends a declaration. -/
theorem Steps.no_semicolon {path : Path} (steps : Steps ts path) : .semicolon ∉ ts := by
  induction steps with
  | nil => simp
  | cons first _ ih =>
    rw [List.mem_append, not_or]
    refine ⟨?_, ih⟩
    cases first with
    | field name => simp
    | wildcard => simp
    | key key => cases key <;> simp

theorem PathFrom.no_semicolon {path : Path} (derived : PathFrom ts path) : .semicolon ∉ ts := by
  cases derived with
  | root steps => simp [steps.no_semicolon]
  | head head steps =>
    rw [List.mem_append, not_or]
    refine ⟨?_, steps.no_semicolon⟩
    cases head with
    | field name => simp
    | wildcard => simp
    | key key => cases key <;> simp

/-- The tokens begin with one that is neither a semicolon nor the word of a declaration. -/
def Opens (ts : List Token) : Prop :=
  ∃ t us, ts = t :: us ∧ t ≠ .semicolon ∧ t ≠ .letWord

theorem Opens.append (opens : Opens ts) (us : List Token) : Opens (ts ++ us) := by
  obtain ⟨t, vs, rfl, plain⟩ := opens
  exact ⟨t, vs ++ us, rfl, plain⟩

theorem Part.opens {tree : AssertionTree} (derived : Part declared room ts tree) : Opens ts := by
  cases derived with
  | @leaf _ _ a leaf =>
    cases leaf with
    | intro _ _ _ =>
      cases a.quantifier with
      | none => exact ⟨_, _, rfl, nofun, nofun⟩
      | some quantifier => cases quantifier <;> exact ⟨_, _, rfl, nofun, nofun⟩
  | not _ => exact ⟨_, _, rfl, nofun, nofun⟩
  | group _ => exact ⟨_, _, rfl, nofun, nofun⟩

theorem Conjuncts.opens {trees : List AssertionTree} (derived : Conjuncts declared room ts trees) :
    Opens ts := by
  cases derived with
  | last part => exact part.opens
  | more part _ => exact part.opens.append _

theorem Disjunction.opens {tree : AssertionTree} (derived : Disjunction declared room ts tree) :
    Opens ts := by
  obtain ⟨trees, disjuncts, _⟩ := derived
  cases disjuncts with
  | last conjunction => exact conjunction.opens
  | more conjunction _ => exact conjunction.opens.append _

theorem Statements.of_semicolon {trees : List AssertionTree}
    (derived : Statements declared (.semicolon :: ts) trees) : Statements declared ts trees := by
  generalize whole : Token.semicolon :: ts = us at derived
  cases derived with
  | nil => cases whole
  | empty rest =>
    cases whole
    exact rest
  | last statement =>
    obtain ⟨t, vs, rfl, plain, _⟩ := statement.opens
    cases whole
    exact absurd rfl plain
  | @cons vs _ _ _ statement _ =>
    obtain ⟨t, ws, rfl, plain, _⟩ := statement.opens
    cases whole
    exact absurd rfl plain

theorem Statements.not_letWord {trees : List AssertionTree} :
    ¬ Statements declared (.letWord :: ts) trees := by
  intro derived
  generalize whole : Token.letWord :: ts = us at derived
  cases derived with
  | nil => cases whole
  | empty rest => cases whole
  | last statement =>
    obtain ⟨t, vs, rfl, _, plain⟩ := statement.opens
    cases whole
    exact absurd rfl plain
  | @cons vs _ _ _ statement _ =>
    obtain ⟨t, ws, rfl, _, plain⟩ := statement.opens
    cases whole
    exact absurd rfl plain

/-! ### What is left of a source -/

/-- The tokens between the word of a declaration and its semicolon. -/
def Declares (ts : List Token) (d : Declaration) : Prop :=
  ∃ us, ts = .identifier d.name :: .equals :: us ∧ PathFrom us d.path

/-- Declarations, then statements that see the declared names. -/
def Remaining (declared : List String) (ts : List Token) (ds : List Declaration)
    (trees : List AssertionTree) : Prop :=
  ∃ us vs, ts = us ++ vs ∧ Declarations us ds ∧ Statements declared vs trees

variable {ds : List Declaration} {trees : List AssertionTree}

theorem Remaining.of_semicolon (remaining : Remaining declared (.semicolon :: ts) ds trees) :
    Remaining declared ts ds trees := by
  obtain ⟨us, vs, split, declarations, statements⟩ := remaining
  cases declarations with
  | nil =>
    rw [List.nil_append] at split
    rw [← split] at statements
    exact ⟨[], ts, rfl, .nil, statements.of_semicolon⟩
  | empty rest =>
    obtain ⟨_, rfl⟩ := List.cons.inj split
    exact ⟨_, vs, rfl, rest, statements⟩
  | cons name steps rest => cases split

theorem split_semicolon {as bs cs ds : List Token} (first : .semicolon ∉ as)
    (second : .semicolon ∉ bs) (same : as ++ .semicolon :: cs = bs ++ .semicolon :: ds) :
    as = bs ∧ cs = ds := by
  induction as generalizing bs with
  | nil =>
    cases bs with
    | nil => exact ⟨rfl, (List.cons.inj same).2⟩
    | cons b bs =>
      cases (List.cons.inj same).1
      exact absurd List.mem_cons_self second
  | cons a as ih =>
    cases bs with
    | nil =>
      cases (List.cons.inj same).1
      exact absurd List.mem_cons_self first
    | cons b bs =>
      obtain ⟨rfl, tail⟩ := List.cons.inj same
      rw [List.mem_cons, not_or] at first second
      obtain ⟨rfl, rest⟩ := ih first.2 second.2 tail
      exact ⟨rfl, rest⟩

theorem Remaining.of_letWord {block : List Token} (whole : .semicolon ∉ block)
    (remaining : Remaining declared (.letWord :: (block ++ .semicolon :: ts)) ds trees) :
    ∃ d later, ds = d :: later ∧ Declares block d ∧ Remaining declared ts later trees := by
  obtain ⟨us, vs, split, declarations, statements⟩ := remaining
  cases declarations with
  | nil =>
    rw [List.nil_append] at split
    rw [← split] at statements
    exact absurd statements Statements.not_letWord
  | empty rest => cases split
  | @cons ws us path ds name steps rest =>
    have tokens : block ++ .semicolon :: ts =
        (.identifier name :: .equals :: ws) ++ .semicolon :: (us ++ vs) := by
      simpa using split
    have inner : .semicolon ∉ .identifier name :: .equals :: ws := by simp [steps.no_semicolon]
    obtain ⟨rfl, rfl⟩ := split_semicolon whole inner tokens
    exact ⟨⟨name, path⟩, ds, rfl, ⟨ws, rfl, steps⟩, us, vs, rfl, rest, statements⟩

theorem Remaining.semicolon (remaining : Remaining declared ts ds trees) :
    Remaining declared (.semicolon :: ts) ds trees := by
  obtain ⟨us, vs, rfl, declarations, statements⟩ := remaining
  exact ⟨.semicolon :: us, vs, rfl, .empty declarations, statements⟩

theorem Remaining.letWord {d : Declaration} {block : List Token} (declares : Declares block d)
    (remaining : Remaining declared ts ds trees) :
    Remaining declared (.letWord :: (block ++ .semicolon :: ts)) (d :: ds) trees := by
  obtain ⟨us, vs, rfl, declarations, statements⟩ := remaining
  obtain ⟨ws, rfl, steps⟩ := declares
  exact ⟨_, vs, by simp, .cons d.name steps declarations, statements⟩

theorem Remaining.congr (same : ∀ name, name ∈ declared ↔ name ∈ others)
    (remaining : Remaining declared ts ds trees) : Remaining others ts ds trees := by
  obtain ⟨us, vs, split, declarations, statements⟩ := remaining
  exact ⟨us, vs, split, declarations, statements.congr same⟩

end Rules

open Rules

/-! ### Texts to their end -/

/-- Scanning the characters to their end gives the tokens. -/
def Whole (cs : List Char) (ts : List Token) : Prop :=
  ∃ rest, Scans cs ts rest ∧ token? rest = none

namespace Whole

variable {cs mid gap : List Char} {ts us : List Token}

theorem of_token {t : Token} (whole : Whole cs ts) (first : token? cs = some (t, mid)) :
    ∃ us, ts = t :: us ∧ Whole mid us := by
  obtain ⟨rest, scans, done⟩ := whole
  cases scans with
  | nil => cases done.symm.trans first
  | @cons _ _ _ _ us first' later =>
    cases first'.symm.trans first
    exact ⟨us, rfl, rest, later, done⟩

theorem of_scans (whole : Whole cs ts) (scans : Scans cs us mid) :
    ∃ vs, ts = us ++ vs ∧ Whole mid vs := by
  induction scans generalizing ts with
  | nil => exact ⟨ts, rfl, whole⟩
  | cons first _ ih =>
    obtain ⟨vs, split, later⟩ := whole.of_token first
    obtain ⟨ws, rfl, rest⟩ := ih later
    exact ⟨ws, split, rest⟩

theorem append (scans : Scans cs us mid) (whole : Whole mid ts) : Whole cs (us ++ ts) := by
  obtain ⟨rest, later, done⟩ := whole
  exact ⟨rest, scans.append later, done⟩

theorem split (us : List Token) (whole : Whole cs (us ++ ts)) : ∃ mid, Scans cs us mid ∧ Whole mid ts := by
  induction us generalizing cs with
  | nil => exact ⟨cs, .nil cs, whole⟩
  | cons t us ih =>
    obtain ⟨rest, scans, done⟩ := whole
    cases scans with
    | cons first later =>
      obtain ⟨mid, scans, onward⟩ := ih ⟨rest, later, done⟩
      exact ⟨mid, .cons first scans, onward⟩

theorem token?_trivia (passed : Trivia gap) (cs : List Char) : token? (gap ++ cs) = token? cs := by
  unfold token?
  rw [passed.trivia_append, List.length_append, List.drop_append, List.drop_of_length_le (by omega)]
  simp

theorem trivia_iff (passed : Trivia gap) : Whole (gap ++ cs) ts ↔ Whole cs ts := by
  constructor
  · rintro ⟨rest, scans, done⟩
    cases scans with
    | nil =>
      rw [token?_trivia passed] at done
      exact ⟨cs, .nil cs, done⟩
    | cons first later =>
      rw [token?_trivia passed] at first
      exact ⟨rest, .cons first later, done⟩
  · rintro ⟨rest, scans, done⟩
    cases scans with
    | nil => exact ⟨gap ++ cs, .nil _, (token?_trivia passed cs).trans done⟩
    | cons first later => exact ⟨rest, .cons ((token?_trivia passed cs).trans first) later, done⟩

end Whole

/-- A source is parsed if declarations and statements are left of it from its start. -/
theorem Specification.parse_eq_ok_iff {source : String} {spec : Specification} :
    parse source = .ok spec ↔
      ∃ ts trees, Whole source.toList ts ∧
        Remaining (spec.declarations.map (·.name)) ts spec.declarations trees ∧
        trees ≠ [] ∧ spec.assertions = joined .and trees := by
  constructor
  · intro read
    obtain ⟨ts, rest, scans, done⟩ := Scans.exists_to_end source.toList
    have tokens : sourceTokens (lex source) = ts :=
      ReadsAs.sourceTokens (readsAs_iff.mpr ⟨rest, scans, done⟩)
    have derived := source_of_ofLexemes read
    rw [tokens] at derived
    cases derived with
    | @intro us vs ds trees declarations statements nonempty =>
      exact ⟨_, trees, ⟨rest, scans, done⟩, ⟨us, vs, rfl, declarations, statements⟩, nonempty, rfl⟩
  · rintro ⟨ts, trees, whole, ⟨us, vs, rfl, declarations, statements⟩, nonempty, join⟩
    refine ofLexemes_of_source ?_
    rw [ReadsAs.sourceTokens (readsAs_iff.mpr whole)]
    obtain ⟨ds, tree⟩ := spec
    obtain rfl : tree = joined .and trees := join
    exact .intro declarations statements nonempty

/-! ### Texts of declarations -/

/-- What may stand between declarations: blanks, comments and semicolons. -/
inductive Gap : List Char → Prop
  | trivia {cs : List Char} (passed : Trivia cs) : Gap cs
  | semicolon {cs more : List Char} (passed : Trivia cs) (rest : Gap more) : Gap (cs ++ ';' :: more)

/-- The text goes from the word of a declaration to the next semicolon. -/
def LetText (text : List Char) (block : List Token) : Prop :=
  Scans text (.letWord :: (block ++ [.semicolon])) [] ∧ .semicolon ∉ block

/-- The characters begin with the texts of declarations, each behind a gap, and go on with `rest`. -/
inductive Prefaced : List (List Char) → List Char → List Char → Prop
  | rest (cs : List Char) : Prefaced [] cs cs
  | declaration {gap text cs rest : List Char} {texts : List (List Char)} {block : List Token}
      (between : Gap gap) (whole : LetText text block) (later : Prefaced texts rest cs) :
      Prefaced (text :: texts) rest (gap ++ (text ++ cs))

/-- The text of a declaration. -/
def TextOf (text : List Char) (d : Declaration) : Prop :=
  ∃ block, LetText text block ∧ Declares block d

variable {declared : List String} {cs rest gap text : List Char} {texts : List (List Char)}
  {ts us block : List Token} {ds : List Declaration} {trees : List AssertionTree}

theorem LetText.scans (whole : LetText text block) (cs : List Char) :
    Scans (text ++ cs) (.letWord :: (block ++ [.semicolon])) cs := by
  have last : (Token.letWord :: (block ++ [.semicolon])).getLast? = some .semicolon := by
    rw [← List.cons_append, List.getLast?_append]
    rfl
  have scans : Scans (text ++ []) (.letWord :: (block ++ [.semicolon])) [] := by
    rw [List.append_nil]
    exact whole.1
  exact scans.replace last cs

theorem Gap.append {more : List Char} (first : Gap gap) (second : Gap more) : Gap (gap ++ more) := by
  induction first with
  | trivia passed =>
    cases second with
    | trivia others => exact .trivia (passed.append others)
    | semicolon others rest =>
      rw [← List.append_assoc]
      exact .semicolon (passed.append others) rest
  | semicolon passed _ ih =>
    rw [List.append_assoc]
    exact .semicolon passed ih

theorem Gap.of_remaining (between : Gap gap) (whole : Whole (gap ++ cs) ts)
    (remaining : Remaining declared ts ds trees) :
    ∃ us, Whole cs us ∧ Remaining declared us ds trees := by
  induction between generalizing ts with
  | trivia passed => exact ⟨ts, (Whole.trivia_iff passed).mp whole, remaining⟩
  | semicolon passed _ ih =>
    rw [List.append_assoc, List.cons_append] at whole
    obtain ⟨us, rfl, onward⟩ := whole.of_token (token?_semicolon passed _)
    exact ih onward remaining.of_semicolon

theorem Gap.remaining (between : Gap gap) (whole : Whole cs us)
    (remaining : Remaining declared us ds trees) :
    ∃ ts, Whole (gap ++ cs) ts ∧ Remaining declared ts ds trees := by
  induction between with
  | trivia passed => exact ⟨us, (Whole.trivia_iff passed).mpr whole, remaining⟩
  | semicolon passed _ ih =>
    obtain ⟨ts, whole, remaining⟩ := ih
    rw [List.append_assoc, List.cons_append]
    exact ⟨_, .append (.single (token?_semicolon passed _)) whole, remaining.semicolon⟩

/-- Of what is left from the start, the first declarations are those of the texts. -/
theorem Prefaced.of_remaining (prefaced : Prefaced texts rest cs) (whole : Whole cs ts)
    (remaining : Remaining declared ts ds trees) :
    ∃ us first later, ds = first ++ later ∧ List.Forall₂ TextOf texts first ∧ Whole rest us ∧
      Remaining declared us later trees := by
  induction prefaced generalizing ts ds with
  | rest cs => exact ⟨ts, [], ds, rfl, .nil, whole, remaining⟩
  | @declaration gap text cs rest texts block between isLet _ ih =>
    obtain ⟨us, after, remaining⟩ := between.of_remaining whole remaining
    obtain ⟨vs, rfl, onward⟩ := after.of_scans (isLet.scans cs)
    rw [List.cons_append, List.append_assoc] at remaining
    obtain ⟨d, ds, rfl, declares, left⟩ := remaining.of_letWord isLet.2
    obtain ⟨us, first, later, rfl, each, done, last⟩ := ih onward left
    exact ⟨us, d :: first, later, rfl, .cons ⟨block, isLet, declares⟩ each, done, last⟩

theorem Prefaced.remaining (prefaced : Prefaced texts rest cs)
    (each : List.Forall₂ TextOf texts ds) {later : List Declaration} (whole : Whole rest us)
    (remaining : Remaining declared us later trees) :
    ∃ ts, Whole cs ts ∧ Remaining declared ts (ds ++ later) trees := by
  induction prefaced generalizing ds with
  | rest cs =>
    cases each
    exact ⟨us, whole, remaining⟩
  | @declaration gap text cs rest texts block between _ _ ih =>
    cases each with
    | cons textOf each =>
      obtain ⟨block, isLet, declares⟩ := textOf
      obtain ⟨ts, after, left⟩ := ih each whole
      have onward := left.letWord declares
      have scanned := Whole.append (isLet.scans cs) after
      rw [List.cons_append, List.append_assoc] at scanned
      exact between.remaining scanned onward

/-- A gap more is a gap before the first text, or before the rest. -/
theorem Prefaced.behind_gap (prefaced : Prefaced texts rest cs) (between : Gap gap) :
    ∃ rest, Prefaced texts rest (gap ++ cs) := by
  cases prefaced with
  | rest => exact ⟨gap ++ cs, .rest _⟩
  | declaration first isLet later =>
    rw [← List.append_assoc]
    exact ⟨rest, .declaration (between.append first) isLet later⟩

theorem exists_prefaced (declarations : Declarations ts ds) (whole : Whole cs (ts ++ us)) :
    ∃ texts rest, Prefaced texts rest cs ∧ texts.length = ds.length := by
  induction declarations generalizing cs with
  | nil => exact ⟨[], cs, .rest cs, rfl⟩
  | empty _ ih =>
    obtain ⟨mid, scans, onward⟩ := whole.split [.semicolon]
    obtain ⟨texts, rest, prefaced, count⟩ := ih onward
    cases scans with
    | cons first done =>
      cases done
      obtain ⟨gap, passed, rfl⟩ := token?_eq_semicolon first
      have between : Gap (gap ++ [';']) := .semicolon passed (.trivia .nil)
      obtain ⟨rest, prefaced⟩ := prefaced.behind_gap between
      rw [List.append_assoc] at prefaced
      exact ⟨texts, rest, prefaced, count⟩
  | @cons ts' us' path ds name steps _ ih =>
    have tokens : .letWord :: .identifier name :: .equals :: (ts' ++ .semicolon :: us') ++ us =
        .letWord :: ((.identifier name :: .equals :: ts') ++ [.semicolon]) ++ (us' ++ us) := by
      simp
    rw [tokens] at whole
    obtain ⟨mid, scans, onward⟩ := whole.split (.letWord :: _)
    obtain ⟨texts, rest, prefaced, count⟩ := ih onward
    obtain ⟨text, rfl⟩ := scans.suffix
    have inner : .semicolon ∉ .identifier name :: .equals :: ts' := by simp [steps.no_semicolon]
    have last : (.letWord :: ((.identifier name :: .equals :: ts') ++ [.semicolon])).getLast? =
        some Token.semicolon := by
      rw [← List.cons_append, List.getLast?_append]
      rfl
    have alone := scans.replace last []
    rw [List.append_nil] at alone
    refine ⟨text :: texts, rest, ?_, congrArg (· + 1) count⟩
    exact .declaration (.trivia .nil) ⟨alone, inner⟩ prefaced

theorem Specification.exists_prefaced {source : String} {spec : Specification}
    (read : parse source = .ok spec) :
    ∃ texts rest, Prefaced texts rest source.toList ∧
      texts.length = spec.declarations.length := by
  obtain ⟨ts, trees, whole, ⟨us, vs, rfl, declarations, _⟩, _⟩ := parse_eq_ok_iff.mp read
  exact Attest.exists_prefaced declarations whole

/-- With the texts of its declarations in another order a source is read as the same assertions. -/
theorem Specification.parse_reordered {source other : String} {spec : Specification}
    {others : List (List Char)} (read : parse source = .ok spec)
    (prefaced : Prefaced texts rest source.toList) (same : texts.Perm others)
    (reordered : Prefaced others rest other.toList) :
    ∃ ds, spec.declarations.Perm ds ∧ parse other = .ok ⟨ds, spec.assertions⟩ := by
  obtain ⟨ts, trees, whole, remaining, nonempty, join⟩ := parse_eq_ok_iff.mp read
  obtain ⟨us, first, later, split, each, done, left⟩ := prefaced.of_remaining whole remaining
  obtain ⟨first', each', same'⟩ := List.perm_comp_forall₂ same.symm each
  have perm : spec.declarations.Perm (first' ++ later) := by
    rw [split]
    exact same'.symm.append_right later
  have names : ∀ name, name ∈ spec.declarations.map (·.name) ↔
      name ∈ (first' ++ later).map (·.name) := fun name => (perm.map _).mem_iff
  obtain ⟨vs, whole', remaining'⟩ := reordered.remaining each' done (left.congr names)
  exact ⟨first' ++ later, perm, parse_eq_ok_iff.mpr ⟨vs, trees, whole', remaining', nonempty, join⟩⟩

end Attest
