import Attest.Proofs.Syntax.Completeness
import Attest.Proofs.Syntax.Soundness
/-!
# Sources

A source is read without failure exactly if the rules derive a specification from its tokens, and
the specification that is read is the only one they derive.
-/

namespace Attest

open Rules

/-- The tokens of a source before the end of input. -/
def sourceTokens (lexemes : List Lexeme) : List Token :=
  (lexemes.map Lexeme.token).takeWhile (· ≠ .endOfInput)

theorem sourceTokens_cons_end {lexeme : Lexeme} {lexemes : List Lexeme}
    (last : lexeme.token = .endOfInput) : sourceTokens (lexeme :: lexemes) = [] := by
  simp [sourceTokens, last]

theorem sourceTokens_cons {lexeme : Lexeme} {lexemes : List Lexeme}
    (more : lexeme.token ≠ .endOfInput) :
    sourceTokens (lexeme :: lexemes) = lexeme.token :: sourceTokens lexemes := by
  simp [sourceTokens, more]

theorem spans_sourceTokens (lexemes : List Lexeme) :
    ∃ rest, Spans lexemes (sourceTokens lexemes) rest ∧ nextToken rest = .endOfInput := by
  induction lexemes with
  | nil => exact ⟨[], .refl _, rfl⟩
  | cons lexeme lexemes ih =>
    by_cases last : lexeme.token = .endOfInput
    · rw [sourceTokens_cons_end last]
      exact ⟨lexeme :: lexemes, .refl _, last⟩
    · obtain ⟨rest, spans, ends⟩ := ih
      rw [sourceTokens_cons last]
      exact ⟨rest, .next rfl last spans, ends⟩

theorem Spans.eq_sourceTokens {lexemes rest : List Lexeme} {ts : List Token}
    (spans : Spans lexemes ts rest) (ends : Attest.nextToken rest = .endOfInput) :
    sourceTokens lexemes = ts := by
  induction ts generalizing lexemes with
  | nil =>
    obtain rfl := nil_iff.mp spans
    cases lexemes with
    | nil => rfl
    | cons lexeme lexemes => exact sourceTokens_cons_end ends
  | cons t ts ih =>
    obtain ⟨more, _, _, mid, rfl, tail⟩ := cons_iff.mp spans
    rw [sourceTokens_cons more, ih tail]

/-- The token is neither the end of input nor one that the reading of a source handles itself. -/
def StartsStatement (t : Token) : Prop :=
  t ≠ .endOfInput ∧ t ≠ .semicolon ∧ t ≠ .letWord

namespace Rules

variable {declared : List String} {room : Nat} {ahead rest : List Lexeme} {ts : List Token}

theorem Part.starts {tree : AssertionTree} (derived : Part declared room ts tree)
    (spans : Spans ahead ts rest) : StartsStatement (nextToken ahead) := by
  cases derived with
  | leaf derived =>
    rcases derived.nextToken spans with here | here | ⟨name, here⟩
    all_goals
      rw [here]
      exact ⟨by simp, by simp, by simp⟩
  | not derived =>
    rw [spans.nextToken]
    exact ⟨by simp, by simp, by simp⟩
  | group derived =>
    rw [spans.nextToken]
    exact ⟨by simp, by simp, by simp⟩

theorem Conjuncts.starts {trees : List AssertionTree} (derived : Conjuncts declared room ts trees)
    (spans : Spans ahead ts rest) : StartsStatement (nextToken ahead) := by
  cases derived with
  | last part => exact part.starts spans
  | more part _ =>
    obtain ⟨mid, first, _⟩ := Spans.append_iff.mp spans
    exact part.starts first

theorem Disjunction.starts {tree : AssertionTree} (derived : Disjunction declared room ts tree)
    (spans : Spans ahead ts rest) : StartsStatement (nextToken ahead) := by
  obtain ⟨trees, derived, rfl⟩ := derived
  cases derived with
  | last conjunction => exact conjunction.starts spans
  | more conjunction _ =>
    obtain ⟨mid, first, _⟩ := Spans.append_iff.mp spans
    exact conjunction.starts first

end Rules

/-- A statement that is read passes a token at least. -/
theorem Parser.length_lt_of_statement {declared : List String} {ahead mid : List Lexeme}
    {tree : AssertionTree} (goes : nextToken ahead ≠ .endOfInput)
    (read : Parser.statement declared ahead = .ok (tree, mid)) : mid.length < ahead.length := by
  obtain ⟨ts, derived, spans | ⟨spans, last⟩⟩ := Parser.statement_sound read
  · have length := spans.length
    simp only [List.length_append, List.length_singleton] at length
    omega
  · have length := spans.length
    cases ts with
    | nil =>
      obtain rfl := Spans.nil_iff.mp spans
      exact absurd last goes
    | cons t ts =>
      simp only [List.length_cons] at length
      omega

namespace Reading

variable {r r' : Reading} {ahead rest mid : List Lexeme} {limit : Nat}

/-! ### Rounds of a reading -/

/-- One round of a reading that does not fail. -/
inductive Round (r : Reading) (ahead : List Lexeme) : Reading → List Lexeme → Prop
  | empty (here : nextToken ahead = .semicolon) : Round r ahead r ahead.tail
  | declaration {d : Declaration} {mid : List Lexeme} (here : nextToken ahead = .letWord)
      (read : Parser.declaration ahead = .ok (d, mid)) :
      Round r ahead (r.declare (nextLine ahead) d mid) mid
  | statement {tree : AssertionTree} {mid : List Lexeme}
      (here : StartsStatement (nextToken ahead))
      (read : Parser.statement r.declared ahead = .ok (tree, mid)) :
      Round r ahead (r.assert tree) mid

theorem run_end (last : nextToken ahead = .endOfInput) : run limit r ahead = (r, ahead) := by
  cases limit with
  | zero => rfl
  | succ limit => simp only [run, last]

theorem run_round {next : Reading} (round : Round r ahead next mid) :
    run (limit + 1) r ahead = run limit next mid := by
  cases round with
  | empty here => simp only [run, here]
  | declaration here read => simp only [run, here, read]
  | statement here read =>
    rw [run]
    split
    · next last => exact absurd last here.1
    · next empty => exact absurd empty here.2.1
    · next declares => exact absurd declares here.2.2
    · simp only [read]

theorem failures_of_run (clean : (run limit r ahead).1.failures = []) : r.failures = [] := by
  induction limit generalizing r ahead with
  | zero => exact clean
  | succ limit ih =>
    rw [run] at clean
    split at clean
    · exact clean
    · exact ih clean
    · split at clean
      · exact (List.append_eq_nil_iff.mp (ih clean)).1
      · exact (List.append_eq_nil_iff.mp (ih clean)).1
    · split at clean
      · have kept : (r.assert _).failures = [] := ih clean
        exact kept
      · exact (List.append_eq_nil_iff.mp (ih clean)).1

/-- A reading that ends without failures is at the end of input, or does a round. -/
theorem round_of_run (h : run (limit + 1) r ahead = (r', rest)) (clean : r'.failures = []) :
    (nextToken ahead = .endOfInput ∧ r' = r ∧ rest = ahead) ∨
      ∃ next mid, Round r ahead next mid ∧ run limit next mid = (r', rest) := by
  -- A failure of this round would still be there at the end.
  have failed : ∀ (failure : Failure) (place : List Lexeme),
      run limit (r.fail failure) place ≠ (r', rest) := by
    intro failure place same
    have ended : (run limit (r.fail failure) place).1.failures = [] := by
      rw [same]
      exact clean
    have kept : (r.fail failure).failures = [] := failures_of_run ended
    simp [fail] at kept
  rw [run] at h
  split at h
  · next last =>
    cases h
    exact .inl ⟨last, rfl, rfl⟩
  · next here => exact .inr ⟨_, _, .empty here, h⟩
  · next here =>
    split at h
    · next read => exact .inr ⟨_, _, .declaration here read, h⟩
    · exact absurd h (failed _ _)
  · next notEnd notEmpty notLet =>
    split at h
    · next read => exact .inr ⟨_, _, .statement ⟨notEnd, notEmpty, notLet⟩ read, h⟩
    · exact absurd h (failed _ _)

theorem Round.length_lt {next : Reading} (round : Round r ahead next mid) :
    mid.length < ahead.length := by
  cases round with
  | empty here =>
    have spans : Spans ahead [.semicolon] ahead.tail := .one here (by simp)
    have length := spans.length
    simp only [List.length_cons, List.length_nil] at length
    omega
  | declaration here read =>
    obtain ⟨ts, _, spans⟩ := Parser.declaration_sound here read
    have length := spans.length
    simp only [List.length_cons] at length
    omega
  | statement here read => exact Parser.length_lt_of_statement here.1 read

/-- A limit that reaches to the end of the source is no limit. -/
theorem exists_run_of_round {next : Reading} (round : Round r ahead next mid)
    (enough : ahead.length ≤ limit) :
    ∃ less, mid.length ≤ less ∧ run limit r ahead = run less next mid := by
  have shorter := round.length_lt
  obtain ⟨less, rfl⟩ : ∃ less, limit = less + 1 := ⟨limit - 1, by omega⟩
  exact ⟨less, by omega, run_round round⟩

/-- A reading without failures goes on to the end of input. -/
theorem nextToken_of_run (enough : ahead.length ≤ limit) (h : run limit r ahead = (r', rest))
    (clean : r'.failures = []) : nextToken rest = .endOfInput := by
  induction limit generalizing r ahead with
  | zero =>
    cases h
    rw [List.length_eq_zero_iff.mp (Nat.le_zero.mp enough)]
    rfl
  | succ limit ih =>
    rcases round_of_run h clean with ⟨last, rfl, rfl⟩ | ⟨next, mid, round, h⟩
    · exact last
    · have shorter := round.length_lt
      exact ih (by omega) h

/-! ### What is read is derived -/

theorem statements_of_statement {tree : AssertionTree}
    (read : Parser.statement r.declared ahead = .ok (tree, mid))
    (h : run limit (r.assert tree) mid = (r', rest))
    (later : ∃ us trees, Spans mid us rest ∧ Statements r.declared us trees ∧
      r' = { r with statements := r.statements ++ [tree] ++ trees }) :
    ∃ ts trees, Spans ahead ts rest ∧ Statements r.declared ts trees ∧
      r' = { r with statements := r.statements ++ trees } := by
  obtain ⟨ts, derived, spans | ⟨spans, last⟩⟩ := Parser.statement_sound read
  · obtain ⟨us, trees, spans', others, rfl⟩ := later
    refine ⟨ts ++ .semicolon :: us, tree :: trees, ?_, .cons derived others, by simp⟩
    simpa using spans.append spans'
  · rw [run_end last] at h
    cases h
    exact ⟨ts, [tree], spans, .last derived, rfl⟩

/-- After the first assertion there are only further assertions. -/
theorem statements_of_run (later : r.statements ≠ []) (h : run limit r ahead = (r', rest))
    (clean : r'.failures = []) :
    ∃ ts trees, Spans ahead ts rest ∧ Statements r.declared ts trees ∧
      r' = { r with statements := r.statements ++ trees } := by
  induction limit generalizing r ahead with
  | zero =>
    cases h
    exact ⟨[], [], .refl _, .nil, by simp⟩
  | succ limit ih =>
    rcases round_of_run h clean with ⟨last, rfl, rfl⟩ | ⟨next, mid, round, h⟩
    · exact ⟨[], [], .refl _, .nil, by simp⟩
    · cases round with
      | empty here =>
        obtain ⟨ts, trees, spans, derived, rfl⟩ := ih later h
        exact ⟨_, trees, .next here (by simp) spans, .empty derived, rfl⟩
      | @declaration d _ here read =>
        have kept : (r.declare (nextLine ahead) d mid).failures = [] :=
          failures_of_run (by rw [h]; exact clean)
        simp [declare, later] at kept
      | statement here read => exact statements_of_statement read h (ih (by simp [assert]) h)

/-- Before the first assertion there are declarations. -/
theorem declarations_of_run (first : r.statements = []) (h : run limit r ahead = (r', rest))
    (clean : r'.failures = []) :
    ∃ ts us ds trees, Spans ahead (ts ++ us) rest ∧ Declarations ts ds ∧
      Statements (r.declared ++ ds.map (·.name)) us trees ∧
      r' = { r with declarations := r.declarations ++ ds, statements := trees } := by
  induction limit generalizing r ahead with
  | zero =>
    cases h
    exact ⟨[], [], [], [], .refl _, .nil, .nil, by simp [← first]⟩
  | succ limit ih =>
    rcases round_of_run h clean with ⟨last, rfl, rfl⟩ | ⟨next, mid, round, h⟩
    · exact ⟨[], [], [], [], .refl _, .nil, .nil, by simp [← first]⟩
    · cases round with
      | empty here =>
        obtain ⟨ts, us, ds, trees, spans, derived, statements, rfl⟩ := ih first h
        exact ⟨_, us, ds, trees, .next here (by simp) spans, .empty derived, statements, rfl⟩
      | @declaration d _ here read =>
        have stillFirst : (r.declare (nextLine ahead) d mid).statements = [] := first
        obtain ⟨ts, us, ds, trees, spans, derived, statements, rfl⟩ := ih stillFirst h
        obtain ⟨vs, path, spans'⟩ := Parser.declaration_sound here read
        refine ⟨_, us, d :: ds, trees, ?_, .cons d.name path derived, ?_, ?_⟩
        · simpa using spans'.append spans
        · simpa [declare, declared] using statements
        · simp [declare, first]
      | @statement tree _ here read =>
        have assertions := statements_of_run (by simp [assert]) h clean
        obtain ⟨us, trees, spans, derived, rfl⟩ := statements_of_statement read h assertions
        exact ⟨[], us, [], trees, spans, .nil, by simpa using derived, by simp [first]⟩

/-! ### What is derived is read -/

theorem run_statements {ts : List Token} {trees : List AssertionTree}
    (derived : Statements r.declared ts trees) (spans : Spans ahead ts rest)
    (last : nextToken rest = .endOfInput) (enough : ahead.length ≤ limit) :
    run limit r ahead = ({ r with statements := r.statements ++ trees }, rest) := by
  generalize names : r.declared = declared at derived
  induction derived generalizing r ahead limit with
  | nil =>
    obtain rfl := Spans.nil_iff.mp spans
    rw [run_end last, List.append_nil]
  | empty _ ih =>
    have round : Round r ahead r ahead.tail := .empty spans.nextToken
    obtain ⟨less, enough, same⟩ := exists_run_of_round round enough
    rw [same]
    exact ih spans.tail enough names
  | last statement =>
    rw [← names] at statement
    have read := Parser.statement_complete_last statement spans last
    obtain ⟨less, _, same⟩ :=
      exists_run_of_round (.statement (statement.starts spans) read) enough
    rw [same, run_end last]
    rfl
  | cons statement _ ih =>
    rw [← names] at statement
    rw [List.append_cons] at spans
    obtain ⟨mid, first, later⟩ := Spans.append_iff.mp spans
    have read := Parser.statement_complete statement first
    obtain ⟨place, here, _⟩ := Spans.append_iff.mp first
    obtain ⟨less, enough, same⟩ :=
      exists_run_of_round (.statement (statement.starts here) read) enough
    rw [same, ih later enough (r := r.assert _) names]
    simp [assert]

theorem run_declarations {ts us : List Token} {ds : List Declaration} {trees : List AssertionTree}
    (first : r.statements = []) (declarations : Declarations ts ds)
    (statements : Statements (r.declared ++ ds.map (·.name)) us trees)
    (spans : Spans ahead (ts ++ us) rest) (last : nextToken rest = .endOfInput)
    (enough : ahead.length ≤ limit) :
    run limit r ahead =
      ({ r with declarations := r.declarations ++ ds, statements := trees }, rest) := by
  induction declarations generalizing r ahead limit with
  | nil =>
    rw [run_statements (by simpa using statements) spans last enough]
    simp [first]
  | empty _ ih =>
    have round : Round r ahead r ahead.tail := .empty spans.nextToken
    obtain ⟨less, enough, same⟩ := exists_run_of_round round enough
    rw [same]
    exact ih first statements spans.tail enough
  | @cons vs ws path ds name derived _ ih =>
    have split : Spans ahead ((.letWord :: .identifier name :: .equals :: (vs ++ [.semicolon])) ++
        (ws ++ us)) rest := by simpa using spans
    obtain ⟨mid, here, later⟩ := Spans.append_iff.mp split
    have read := Parser.declaration_complete derived here
    obtain ⟨less, enough, same⟩ := exists_run_of_round (.declaration here.nextToken read) enough
    have further : Statements ((r.declare (nextLine ahead) ⟨name, path⟩ mid).declared ++
        ds.map (·.name)) us trees := by simpa [declare, declared] using statements
    rw [same, ih (r := r.declare _ _ _) first further later enough]
    simp [declare, first]

end Reading

/-! ### Specifications -/

theorem Reading.tree_eq_joined (r : Reading) : r.tree = joined .and r.statements := by
  unfold tree joined
  split <;> simp_all

namespace Specification

theorem source_of_ofLexemes {lexemes : List Lexeme} {spec : Specification}
    (h : ofLexemes lexemes = .ok spec) : Source (sourceTokens lexemes) spec := by
  unfold ofLexemes Reading.ofLexemes at h
  generalize read : Reading.run lexemes.length {} lexemes = result at h
  obtain ⟨r, rest⟩ := result
  simp only [Bool.and_eq_true, List.isEmpty_iff] at h
  by_cases empty : r.statements = [] ∧ r.failures = []
  · simp [empty, Reading.fail] at h
  · rw [if_neg empty] at h
    split at h
    · next clean =>
      cases h
      have last := Reading.nextToken_of_run (Nat.le_refl _) read clean
      obtain ⟨ts, us, ds, trees, spans, declarations, statements, rfl⟩ :=
        Reading.declarations_of_run rfl read clean
      rw [spans.eq_sourceTokens last, Reading.tree_eq_joined]
      exact .intro declarations statements fun unstated => empty ⟨unstated, clean⟩
    · cases h

theorem ofLexemes_of_source {lexemes : List Lexeme} {spec : Specification}
    (derived : Source (sourceTokens lexemes) spec) : ofLexemes lexemes = .ok spec := by
  obtain ⟨rest, spans, last⟩ := spans_sourceTokens lexemes
  generalize sourceTokens lexemes = tokens at derived spans
  cases derived with
  | @intro ts us ds trees declarations statements nonempty =>
    have read :=
      Reading.run_declarations (r := {}) rfl declarations statements spans last (Nat.le_refl _)
    unfold ofLexemes Reading.ofLexemes
    rw [read]
    simp [nonempty, Reading.tree_eq_joined]

/-- Tokens are read as a specification exactly if the rules derive it from them, and then they
derive no other. -/
theorem ofLexemes_eq_ok_iff (lexemes : List Lexeme) (spec : Specification) :
    ofLexemes lexemes = .ok spec ↔
      Source (sourceTokens lexemes) spec ∧
        ∀ other, Source (sourceTokens lexemes) other → other = spec := by
  constructor
  · intro read
    refine ⟨source_of_ofLexemes read, fun other derived => ?_⟩
    have same := (ofLexemes_of_source derived).symm.trans read
    exact Except.ok.inj same
  · rintro ⟨derived, _⟩
    exact ofLexemes_of_source derived

end Specification

end Attest
