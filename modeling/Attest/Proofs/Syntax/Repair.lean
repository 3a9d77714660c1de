import Attest.Proofs.Language.Scanning
import Attest.Proofs.Syntax.Layout
import Attest.Proofs.Syntax.Recovery
/-!
# Repairs

A broken assertion is not counted when a later declaration is judged late. Apart from that it hides
nothing: mending it brings no error of another statement to light.
-/

namespace Attest

/-! ### Statements -/

/-- Tokens that a semicolon ends, and nothing before it. -/
structure Statement where
  body : List Lexeme
  stop : Lexeme
  nonempty : body ≠ []
  inner : ∀ lexeme ∈ body, ¬ lexeme.token.IsBoundary
  semicolon : stop.token = .semicolon

namespace Statement

variable {s : Statement}

def tokens (s : Statement) : List Lexeme :=
  s.body ++ [s.stop]

theorem closed (s : Statement) : Closed s.tokens :=
  .of_semicolon (by simp [tokens, s.semicolon])

theorem starts (s : Statement) : StartsStatement (nextToken s.tokens) := by
  obtain ⟨lexeme, rest, split⟩ := List.exists_cons_of_ne_nil s.nonempty
  have inner := s.inner lexeme (split ▸ List.mem_cons_self)
  simp only [Token.isBoundary_iff, not_or] at inner
  rw [tokens, split]
  exact ⟨inner.2.2, inner.1, inner.2.1⟩

end Statement

theorem Parser.recover_semicolon {body : List Lexeme} {stop : Lexeme}
    (inner : ∀ lexeme ∈ body, ¬ lexeme.token.IsBoundary) (semicolon : stop.token = .semicolon) :
    recover (body ++ [stop]) = [] := by
  induction body with
  | nil => simp only [List.nil_append, recover, semicolon]
  | cons lexeme body ih =>
    obtain ⟨here, later⟩ := List.forall_mem_cons.mp inner
    simp only [Token.isBoundary_iff, not_or] at here
    rw [List.cons_append, recover]
    split
    · next last => exact absurd last here.2.2
    · next begins => exact absurd begins here.2.1
    · next ends => exact absurd ends here.1
    · exact ih later

namespace Reading

variable {r r' next next' mid mid' : Reading} {s : Statement}

theorem onward_statement {tree : AssertionTree}
    (read : Parser.statement r.declared s.tokens = .ok (tree, [])) :
    r.onward s.tokens = (r.assert tree, []) := by
  have starts := s.starts
  have here : r.round s.tokens = (r.assert tree, []) := by
    unfold round
    split
    · next last => exact absurd last starts.1
    · next empty => exact absurd empty starts.2.1
    · next declares => exact absurd declares starts.2.2
    · rw [read]
  rw [onward_round s.closed starts.1, here, onward_end rfl]

theorem onward_broken {failure : Failure}
    (broken : Parser.statement r.declared s.tokens = .error failure) :
    r.onward s.tokens = (r.fail failure, []) := by
  have starts := s.starts
  have framed := Parser.framed_statement r.declared (s.closed.fenced (by simp [Statement.tokens]))
  obtain ⟨fenced, within⟩ := framed.error failure broken
  -- What is left of the statement has its semicolon, and no other place to go on from.
  have passed : Parser.recover failure.rest = [] := by
    obtain ⟨before, split⟩ := within
    rcases List.eq_nil_or_concat failure.rest with empty | ⟨rest, last, concat⟩
    · obtain ⟨lexeme, member, _⟩ := fenced
      simp [empty] at member
    · rw [concat, List.concat_eq_append, ← List.append_assoc, Statement.tokens] at split
      obtain ⟨bodies, lasts⟩ := List.append_inj' split rfl
      obtain rfl : last = s.stop := by simpa using lasts
      rw [concat, List.concat_eq_append]
      refine Parser.recover_semicolon (fun lexeme member => ?_) s.semicolon
      exact s.inner lexeme (bodies ▸ List.mem_append_right before member)
  have here : r.round s.tokens = (r.fail failure, []) := by
    unfold round
    split
    · next last => exact absurd last starts.1
    · next empty => exact absurd empty starts.2.1
    · next declares => exact absurd declares starts.2.2
    · rw [broken]
      exact Prod.ext rfl passed
  rw [onward_round s.closed starts.1, here, onward_end rfl]

/-! ### Readings with an assertion more -/

theorem Together.statements (together : Together r r' next next') :
    next.statements = [] → r.statements = [] := by
  induction together with
  | refl => exact id
  | declare _ line d rest ih => exact ih
  | assert _ tree ih => simp [Reading.assert]
  | fail _ f ih => exact ih

theorem Together.asserts (together : Together r r' next next') (asserts : r'.statements ≠ []) :
    next'.statements ≠ [] := by
  induction together with
  | refl => exact asserts
  | declare _ line d rest ih => exact ih
  | assert _ tree ih => simp [Reading.assert]
  | fail _ f ih => exact ih

/-- Both readings go on with the same failures, except that declarations are late in the second as
long as the first has no assertion. -/
def Gains (r r' next next' : Reading) : Prop :=
  ∃ new new', next.failures = r.failures ++ new ∧ next'.failures = r'.failures ++ new' ∧
    new ⊆ new' ∧ ∀ f ∈ new', f ∈ new ∨ f.fault = .lateDeclaration ∧ r.statements = []

theorem Gains.append (gains : Gains r r' mid mid') {more more' : List Failure}
    (here : next.failures = mid.failures ++ more) (there : next'.failures = mid'.failures ++ more')
    (kept : more ⊆ more')
    (late : ∀ f ∈ more', f ∈ more ∨ f.fault = .lateDeclaration ∧ r.statements = []) :
    Gains r r' next next' := by
  obtain ⟨new, new', added, added', before, early⟩ := gains
  refine ⟨new ++ more, new' ++ more', ?_, ?_, ?_, fun f member => ?_⟩
  · rw [here, added, List.append_assoc]
  · rw [there, added', List.append_assoc]
  · exact List.append_subset.mpr
      ⟨List.subset_append_of_subset_left _ before, List.subset_append_of_subset_right _ kept⟩
  · rcases List.mem_append.mp member with first | second
    · exact (early f first).imp_left (List.mem_append_left more)
    · exact (late f second).imp_left (List.mem_append_right new)

/-- A reading with an assertion, and one that may have none, of the same tokens. -/
theorem Together.gains (together : Together r r' next next') (asserts : r'.statements ≠ []) :
    Gains r r' next next' := by
  induction together with
  | refl => exact ⟨[], [], by simp, by simp, List.Subset.refl [], by simp⟩
  | assert _ tree ih => exact ih
  | fail _ f ih => exact ih.append rfl rfl (List.Subset.refl [f]) fun _ member => .inl member
  | @declare mid mid' before line d rest ih =>
    have late : mid'.statements.isEmpty = false := by simpa using before.asserts asserts
    refine ih.append rfl rfl ?_ fun f member => ?_
    · rw [late]
      split
      · exact List.nil_subset _
      · exact List.Subset.refl _
    · rw [late] at member
      obtain rfl := List.mem_singleton.mp member
      cases assertions : mid.statements with
      | nil => exact .inr ⟨rfl, before.statements assertions⟩
      | cons tree trees => exact .inl (List.mem_singleton.mpr rfl)

end Reading

/-! ### Reports of a source -/

namespace Specification

/-- The diagnostics of a source, of which there are none if it can be read. -/
def reports (source : String) : List Diagnostic :=
  match parse source with
  | .ok _ => []
  | .error errors => errors.diagnostics

theorem reports_eq (source : String) :
    reports source = (Reading.ofLexemes (lex source)).failures.map Failure.report := by
  unfold reports parse ofLexemes
  cases failures : (Reading.ofLexemes (lex source)).failures with
  | nil => simp [failures]
  | cons f rest => simp [failures, SyntaxErrors.diagnostics_ofFailures]

/-- That there is no assertion is reported only if there is nothing else. -/
theorem reports_onward {source : String}
    (nonempty : (Reading.onward {} (lex source)).1.statements ≠ [] ∨
      (Reading.onward {} (lex source)).1.failures ≠ []) :
    reports source = (Reading.onward {} (lex source)).1.diagnostics := by
  have read : Reading.ofLexemes (lex source) = (Reading.onward {} (lex source)).1 := by
    unfold Reading.onward at nonempty ⊢
    unfold Reading.ofLexemes
    dsimp only
    rw [if_neg]
    simpa [imp_iff_not_or] using nonempty
  rw [reports_eq, read, Reading.diagnostics_eq]

end Specification

namespace Reading

theorem Alike.diagnostics_eq {r r' : Reading} (alike : Alike .same r r') :
    r.diagnostics = r'.diagnostics := by
  rw [Reading.diagnostics_eq, Reading.diagnostics_eq]
  have failures := alike.failures
  generalize r.failures = fs at failures
  generalize r'.failures = gs at failures
  induction failures with
  | nil => rfl
  | @cons f g _ _ same _ ih =>
    have line : f.line = g.line := same.line
    simp only [List.map_cons, Failure.report, same.fault, line, same.trail, ih]

theorem diagnostics_fail (r : Reading) (f : Failure) :
    (r.fail f).diagnostics = r.diagnostics ++ [f.report] := by
  rw [Reading.diagnostics_eq, Reading.diagnostics_eq, fail, List.map_append, List.map_singleton]

theorem diagnostics_assert (r : Reading) (tree : AssertionTree) :
    (r.assert tree).diagnostics = r.diagnostics := rfl

theorem diagnostics_of_failures {r r' : Reading} {new : List Failure}
    (added : r'.failures = r.failures ++ new) :
    r'.diagnostics = r.diagnostics ++ new.map Failure.report := by
  rw [Reading.diagnostics_eq, Reading.diagnostics_eq, added, List.map_append]

theorem alike_followed (r : Reading) {xs ys : List Lexeme} (facing : Facing .same xs ys) :
    Alike .same (r.followed xs) (r.followed ys) := by
  refine ⟨rfl, rfl, ?_⟩
  rw [followed, followed]
  refine List.forall₂_map_left_iff.mpr (List.forall₂_map_right_iff.mpr ?_)
  refine List.forall₂_same.mpr fun f _ => ⟨rfl, rfl, rfl, ?_⟩
  exact List.rel_append (Facing.refl f.rest) facing

/-- A statement of a source is read after what comes before it, and what comes after it later. -/
theorem onward_lex {source : String} {before after : List Lexeme} {s : Statement}
    (split : lex source = before ++ s.tokens ++ after) (closed : Closed before) :
    onward {} (lex source) =
      ((((onward {} before).1.followed s.tokens).onward s.tokens).1.followed after).onward
        after := by
  obtain ⟨front, stop, whole, stops, inner⟩ := lex_eq_append source
  have ends : Closed after := by
    have closed : Closed (lex source) := whole ▸ Closed.append_end front stops
    exact closed.of_suffix (split ▸ List.suffix_append _ _)
  have noEnd : ∀ lexeme ∈ before ++ s.tokens, lexeme.token ≠ .endOfInput := by
    rcases List.eq_nil_or_concat after with empty | ⟨rest, last, concat⟩
    · -- The end of input would be the semicolon of the statement.
      rw [whole, empty, List.append_nil, Statement.tokens, ← List.append_assoc] at split
      obtain ⟨_, lasts⟩ := List.append_inj' split rfl
      obtain rfl : stop = s.stop := by simpa using lasts
      cases stops.symm.trans s.semicolon
    · rw [whole, concat, List.concat_eq_append, ← List.append_assoc] at split
      obtain ⟨fronts, _⟩ := List.append_inj' split rfl
      exact fun lexeme member => inner lexeme (fronts ▸ List.mem_append_left rest member)
  have first : onward {} (before ++ s.tokens) =
      ((onward {} before).1.followed s.tokens).onward s.tokens :=
    onward_followed (r := {}) closed
      (fun lexeme member => noEnd lexeme (List.mem_append_left _ member)) s.closed
  rw [← first, split]
  exact onward_followed (r := {}) (closed.append s.closed) noEnd ends

end Reading

/-! ### Repairs of a source -/

/-- Two sources that differ in one statement: in place of a broken assertion of the first the second
has one that can be read. The tokens after it are the same, and on the same lines. -/
structure Repair (source repaired : String) where
  before : List Lexeme
  broken : Statement
  mended : Statement
  after : List Lexeme
  after' : List Lexeme
  lex_source : lex source = before ++ broken.tokens ++ after
  lex_repaired : lex repaired = before ++ mended.tokens ++ after'
  closed : Closed before
  facing : Facing .same after after'
  breaks : ∃ failure,
    Parser.statement (Reading.onward {} before).1.declared broken.tokens = .error failure
  reads : ∃ tree,
    Parser.statement (Reading.onward {} before).1.declared mended.tokens = .ok (tree, [])

namespace Repair

variable {source repaired : String}

/-- What is read before the statement. -/
def start (repair : Repair source repaired) : Reading :=
  (Reading.onward {} repair.before).1

theorem onward_source (repair : Repair source repaired) {failure : Failure}
    (breaks : Parser.statement repair.start.declared repair.broken.tokens = .error failure) :
    Reading.onward {} (lex source) =
      (((repair.start.followed repair.broken.tokens).fail failure).followed repair.after).onward
        repair.after := by
  have passed := Reading.onward_broken (r := repair.start.followed repair.broken.tokens) breaks
  rw [Reading.onward_lex repair.lex_source repair.closed]
  exact congrArg (fun r => (Reading.followed repair.after r.1).onward repair.after) passed

theorem onward_repaired (repair : Repair source repaired) {tree : AssertionTree}
    (reads : Parser.statement repair.start.declared repair.mended.tokens = .ok (tree, [])) :
    Reading.onward {} (lex repaired) =
      (((repair.start.followed repair.mended.tokens).assert tree).followed repair.after').onward
        repair.after' := by
  have read := Reading.onward_statement (r := repair.start.followed repair.mended.tokens) reads
  rw [Reading.onward_lex repair.lex_repaired repair.closed]
  exact congrArg (fun r => (Reading.followed repair.after' r.1).onward repair.after') read

/-- Of the two sources, the reports before the statement are the same. After it the second has those
of the first, and reports that declarations are late which no other assertion comes before. -/
theorem reports_split (repair : Repair source repaired) :
    ∃ (failure : Failure) (new new' : List Failure),
      Parser.statement repair.start.declared repair.broken.tokens = .error failure ∧
      Specification.reports source =
        repair.start.diagnostics ++ failure.report :: new.map Failure.report ∧
      Specification.reports repaired = repair.start.diagnostics ++ new'.map Failure.report ∧
      new ⊆ new' ∧
      ∀ f ∈ new', f ∈ new ∨ f.fault = .lateDeclaration ∧ repair.start.statements = [] := by
  obtain ⟨failure, breaks⟩ := repair.breaks
  obtain ⟨tree, reads⟩ := repair.reads
  have here := repair.onward_source breaks
  have there := repair.onward_repaired reads
  let r := ((repair.start.followed repair.broken.tokens).fail failure).followed repair.after
  let r' := (repair.start.followed repair.mended.tokens).assert tree
  -- Both go on from the same tokens, since the layout of the second source makes no difference.
  have layout : Reading.Alike .same ((r'.followed repair.after).onward repair.after).1
      (Reading.onward {} (lex repaired)).1 := by
    rw [there]
    unfold Reading.onward
    rw [← repair.facing.length_eq]
    exact ((r'.alike_followed repair.facing).run _ repair.facing).1
  have names : Reading.SameNames r (r'.followed repair.after) := fun name => Iff.rfl
  have together := Reading.Together.refl.run names repair.after.length repair.after
  have asserts : (r'.followed repair.after).statements ≠ [] := by
    simp [r', Reading.followed, Reading.assert]
  obtain ⟨new, new', added, added', kept, late⟩ := together.gains asserts
  refine ⟨failure, new, new', breaks, ?_, ?_, kept, late⟩
  · have failed : (r.onward repair.after).1.failures ≠ [] := by
      unfold Reading.onward
      rw [added]
      simp [r, Reading.followed, Reading.fail]
    rw [Specification.reports_onward (.inr (here ▸ failed)), here]
    calc (r.onward repair.after).1.diagnostics
      _ = r.diagnostics ++ new.map Failure.report := Reading.diagnostics_of_failures added
      _ = repair.start.diagnostics ++ failure.report :: new.map Failure.report := by
        rw [Reading.diagnostics_followed, Reading.diagnostics_fail, Reading.diagnostics_followed,
          List.append_assoc, List.singleton_append]
  · have read : (Reading.onward {} (lex repaired)).1.statements ≠ [] := by
      rw [← layout.statements]
      exact together.asserts asserts
    rw [Specification.reports_onward (.inl read), ← layout.diagnostics_eq]
    calc ((r'.followed repair.after).onward repair.after).1.diagnostics
      _ = (r'.followed repair.after).diagnostics ++ new'.map Failure.report :=
        Reading.diagnostics_of_failures added'
      _ = repair.start.diagnostics ++ new'.map Failure.report := by
        rw [Reading.diagnostics_followed, Reading.diagnostics_assert,
          Reading.diagnostics_followed]

/-- Mending a broken assertion brings to light at most that declarations are late, and that only if
nothing before it could be read as an assertion. What else is reported of the mended source was
reported of the broken one, and of this only the failure of the statement is gone. -/
theorem reports_repaired (repair : Repair source repaired) :
    (∀ d ∈ Specification.reports repaired,
      d ∈ Specification.reports source ∨
        d.message = SyntaxFault.lateDeclaration.message ∧ repair.start.statements = []) ∧
      ∀ d ∈ Specification.reports source,
        d ∈ Specification.reports repaired ∨
          ∃ failure,
            Parser.statement repair.start.declared repair.broken.tokens = .error failure ∧
              d = failure.report := by
  obtain ⟨failure, new, new', breaks, here, there, kept, late⟩ := repair.reports_split
  rw [here, there]
  refine ⟨fun d member => ?_, fun d member => ?_⟩
  · rcases List.mem_append.mp member with early | recent
    · exact .inl (List.mem_append_left _ early)
    · obtain ⟨f, added, rfl⟩ := List.mem_map.mp recent
      rcases late f added with reported | ⟨fault, unlisted⟩
      · have again := List.mem_map_of_mem (f := Failure.report) reported
        exact .inl (List.mem_append_right _ (List.mem_cons_of_mem _ again))
      · exact .inr ⟨by rw [Failure.report, fault], unlisted⟩
  · rcases List.mem_append.mp member with early | recent
    · exact .inl (List.mem_append_left _ early)
    · rcases List.mem_cons.mp recent with rfl | later
      · exact .inr ⟨failure, breaks, rfl⟩
      · exact .inl (List.mem_append_right _ (List.map_subset _ kept later))

end Repair

/-! ### A declaration between assertions -/

def brokenText : String := "exists(;\nlet a = b;\nexists(c);"

def mendedText : String := "exists(x);\nlet a = b;\nexists(c);"

def brokenStatement : Statement where
  body := (lex brokenText).take 2
  stop := ⟨.semicolon, ⟨7, 1, 8⟩, ⟨8, 1, 9⟩⟩
  nonempty := by decide +kernel
  inner := by decide +kernel
  semicolon := rfl

def mendedStatement : Statement where
  body := (lex mendedText).take 4
  stop := ⟨.semicolon, ⟨9, 1, 10⟩, ⟨10, 1, 11⟩⟩
  nonempty := by decide +kernel
  inner := by decide +kernel
  semicolon := rfl

theorem brokenStatement_breaks :
    ∃ failure, Parser.statement [] brokenStatement.tokens = .error failure := by
  have fails : (Parser.statement [] brokenStatement.tokens).toOption.isNone := by decide +kernel
  cases read : Parser.statement [] brokenStatement.tokens with
  | error failure => exact ⟨failure, rfl⟩
  | ok result => simp [read, Except.toOption] at fails

theorem mendedStatement_reads :
    ∃ tree, Parser.statement [] mendedStatement.tokens = .ok (tree, []) := by
  have reads : (Parser.statement [] mendedStatement.tokens).toOption.map Prod.snd = some [] := by
    decide +kernel
  cases read : Parser.statement [] mendedStatement.tokens with
  | error failure => simp [read, Except.toOption] at reads
  | ok result =>
    obtain ⟨tree, rest⟩ := result
    obtain rfl : rest = [] := by simpa [read, Except.toOption] using reads
    exact ⟨tree, rfl⟩

/-- The first of two assertions, with a declaration between them, is mended. -/
def sampleRepair : Repair brokenText mendedText where
  before := []
  broken := brokenStatement
  mended := mendedStatement
  after := (lex brokenText).drop 3
  after' := (lex mendedText).drop 5
  lex_source := by decide +kernel
  lex_repaired := by decide +kernel
  closed := nofun
  facing := by
    unfold Facing LineRelation.same
    decide +kernel
  breaks := brokenStatement_breaks
  reads := mendedStatement_reads

/-- Nothing is reported of the mended text but the declaration, as the theorem allows. -/
theorem Repair.reports_repaired_sample :
    ∃ d ∈ Specification.reports mendedText,
      (d ∈ Specification.reports brokenText ∨
        d.message = SyntaxFault.lateDeclaration.message ∧ sampleRepair.start.statements = []) := by
  have member : (⟨"declarations must precede assertions", 2, "let a = b"⟩ : Diagnostic) ∈
      Specification.reports mendedText := by decide +kernel
  exact ⟨_, member, sampleRepair.reports_repaired.1 _ member⟩

/-- That the declaration is late is not reported before the assertion is mended. -/
theorem Repair.reports_not_exhaustive :
    Nonempty (Repair brokenText mendedText) ∧
      ∃ d ∈ Specification.reports mendedText,
        ∀ e ∈ Specification.reports brokenText, ¬ (e.message = d.message ∧ e.line = d.line) := by
  refine ⟨⟨sampleRepair⟩, ⟨"declarations must precede assertions", 2, "let a = b"⟩, ?_, ?_⟩
  · decide +kernel
  · decide +kernel

end Attest
