import Attest.Proofs.Language.Placement
import Attest.Proofs.Syntax.Lines
import Attest.Proofs.Syntax.Recovery
/-!
# Reports of broken sources

What is reported of a source that does not parse: something of each statement that is broken, once,
in the order of the lines.
-/

namespace Attest

/-! ### Texts -/

theorem append_ne_empty {text : String} (first : text ≠ "") (more : String) :
    text ++ more ≠ "" := by
  intro both
  exact first (String.append_eq_empty_iff.mp both).1

theorem append_ne_empty_right {more : String} (last : more ≠ "") (text : String) :
    text ++ more ≠ "" := by
  intro both
  exact last (String.append_eq_empty_iff.mp both).2

theorem Step.text_ne_empty (step : Step) : step.text ≠ "" := by
  cases step with
  | index position => exact append_ne_empty_right (by decide) _
  | wildcard => decide
  | field name =>
    rw [text]
    split
    · next plain =>
      rintro rfl
      cases plain
    · exact append_ne_empty_right (by decide) _

theorem AssertionDraft.text_ne_empty (draft : AssertionDraft) : draft.text ≠ "" := by
  refine append_ne_empty_right ?_ _
  split
  · decide
  · exact append_ne_empty_right (by decide) _

theorem Declaration.text_ne_empty (d : Declaration) : d.text ≠ "" :=
  append_ne_empty (append_ne_empty (append_ne_empty (by decide) _) _) _

theorem DeclarationDraft.text_ne_empty (draft : DeclarationDraft) : draft.text ≠ "" := by
  unfold text
  split
  · decide
  · split
    · exact Declaration.text_ne_empty _
    · split
      · exact append_ne_empty_right (by decide) _
      · exact append_ne_empty_right (by decide) _

theorem Construct.name?_ne_empty {construct : Construct} {name : String}
    (named : construct.name? = some name) : name ≠ "" := by
  cases construct with
  | predicate p =>
    cases named
    exact append_ne_empty_right (by decide) _
  | assertion draft =>
    cases named
    exact draft.text_ne_empty
  | declaration draft =>
    cases named
    exact draft.text_ne_empty
  | step s =>
    cases named
    exact s.text_ne_empty
  | model => cases named
  | group => cases named
  | negation => cases named
  | operand => cases named

theorem LexicalError.message_ne_empty (reason : LexicalError) : reason.message ≠ "" := by
  cases reason with
  | badEscape c => exact append_ne_empty_right (by decide) _
  | endsInEscape => decide
  | missingQuote => decide
  | integerRange numeral => exact append_ne_empty_right (by decide) _
  | unexpectedChar c => exact append_ne_empty_right (by decide) _

theorem SyntaxFault.message_ne_empty (fault : SyntaxFault) : fault.message ≠ "" := by
  cases fault with
  | lexical reason => exact reason.message_ne_empty
  | noAssertion => decide
  | lateDeclaration => decide
  | _ =>
    unfold message
    dsimp only
    repeat refine append_ne_empty ?_ _
    decide

theorem Failure.report_texts (f : Failure) : f.report.message ≠ "" ∧ f.report.token ≠ "" := by
  constructor
  · show f.fault.message ≠ ""
    exact f.fault.message_ne_empty
  · show (f.trail.findSome? Construct.name?).getD Diagnostic.rootToken ≠ ""
    cases found : f.trail.findSome? Construct.name? with
    | none => decide
    | some name =>
      obtain ⟨construct, _, named⟩ := List.exists_of_findSome?_eq_some found
      exact Construct.name?_ne_empty named

/-! ### Lines -/

/-- The tokens that are still to be read come in the order of their lines, which are in a range. -/
structure Ranged (low high : Nat) (ahead : List Lexeme) : Prop where
  closed : Closed ahead
  above : ∀ lexeme ∈ ahead, low ≤ lexeme.start.line
  below : ∀ lexeme ∈ ahead, lexeme.start.line ≤ high
  ordered : ahead.Pairwise fun a b => a.start.line ≤ b.start.line

namespace Ranged

variable {low high : Nat} {ahead rest : List Lexeme}

theorem of_suffix (ranged : Ranged low high ahead) (within : rest <:+ ahead) :
    Ranged low high rest where
  closed := ranged.closed.of_suffix within
  above := fun lexeme member => ranged.above lexeme (within.subset member)
  below := fun lexeme member => ranged.below lexeme (within.subset member)
  ordered := ranged.ordered.sublist within.sublist

theorem lined (ranged : Ranged low high ahead) (nonempty : ahead ≠ []) : Lined low ahead :=
  ⟨ranged.closed.fenced nonempty, ranged.above, ranged.ordered⟩

end Ranged

/-- The failure is on a line of the range, and no token of the rest is on an earlier one. -/
structure Failure.Between (low high : Nat) (rest : List Lexeme) (f : Failure) : Prop where
  after : low ≤ f.line
  before : f.line ≤ high
  ahead : ∀ lexeme ∈ rest, f.line ≤ lexeme.start.line

theorem Parser.Located.between {α : Type} {p : Parser α} {low high : Nat} {ahead : List Lexeme}
    {left : List Lexeme → Prop} {failure : Failure} (located : Parser.Located low p ahead)
    (framed : Parser.Framed left p ahead) (below : ∀ lexeme ∈ ahead, lexeme.start.line ≤ high)
    (failed : p ahead = .error failure) :
    failure.Between low high (Parser.recover failure.rest) := by
  obtain ⟨after, rest⟩ := located failure failed
  obtain ⟨fenced, inside⟩ := framed.error failure failed
  obtain ⟨lexeme, member, _⟩ := fenced
  refine ⟨after, Nat.le_trans (rest lexeme member) (below lexeme (inside.subset member)), ?_⟩
  intro other later
  exact rest other ((Parser.recover_suffix failure.rest).subset later)

namespace Reading

variable {r : Reading} {low high limit : Nat} {ahead : List Lexeme}

/-! ### Attempts -/

/-- The failures that one attempt at a statement or a declaration adds. -/
def added (r : Reading) (ahead : List Lexeme) : List Failure :=
  (r.round ahead).1.failures.drop r.failures.length

/-- The failures of each attempt in turn. -/
def attempts : Nat → Reading → List Lexeme → List (List Failure)
  | 0, _, _ => []
  | limit + 1, r, ahead =>
    if nextToken ahead = .endOfInput then []
    else r.added ahead :: attempts limit (r.round ahead).1 (r.round ahead).2

/-- An attempt adds one failure at most, which is on a line that was read. -/
theorem round_adds (ranged : Ranged low high ahead) (goes : nextToken ahead ≠ .endOfInput) :
    ∃ new, (r.round ahead).1.failures = r.failures ++ new ∧ new.length ≤ 1 ∧
      ∀ f ∈ new, f.Between low high (r.round ahead).2 := by
  have lined := ranged.lined (ne_nil_of_goes goes)
  have nothing {rest : List Lexeme} {next : Reading} (same : next.failures = r.failures) :
      ∃ new, next.failures = r.failures ++ new ∧ new.length ≤ 1 ∧
        ∀ f ∈ new, f.Between low high rest :=
    ⟨[], by rw [same, List.append_nil], by simp, by simp⟩
  have one {rest : List Lexeme} {f : Failure} (between : f.Between low high rest) :
      ∃ new, (r.fail f).failures = r.failures ++ new ∧ new.length ≤ 1 ∧
        ∀ f ∈ new, f.Between low high rest :=
    ⟨[f], rfl, Nat.le_refl 1, by simpa using between⟩
  unfold round
  split
  · next last => exact absurd last goes
  · exact nothing rfl
  · next here =>
    obtain ⟨lexeme, rest, rfl, fenced⟩ := eq_cons_of_let ranged.closed here
    have framed := Parser.framed_afterLet fenced
    have later : Lined low rest := lined.of_suffix (List.suffix_cons _ _) fenced
    rw [Parser.declaration_cons]
    split
    · next d mid read =>
      have inside := (framed.ok d mid read).2.trans (List.suffix_cons lexeme rest)
      refine ⟨_, rfl, ?_, ?_⟩
      · split <;> simp
      · -- The failure of a late declaration is on the line of its `let`.
        intro f member
        split at member
        · cases member
        · obtain rfl := List.mem_singleton.mp member
          refine ⟨lined.le_nextLine, ranged.below lexeme List.mem_cons_self, ?_⟩
          intro other later
          exact lined.nextLine_le other (inside.subset later)
    · next failure read =>
      have below := (ranged.of_suffix (List.suffix_cons lexeme rest)).below
      exact one ((Parser.accurate_afterLet low rest later).between framed below read)
  · have framed := Parser.framed_statement r.declared lined.fenced
    split
    · exact nothing rfl
    · next failure read =>
      have located := Parser.accurate_statement r.declared low ahead lined
      exact one (located.between framed ranged.below read)

theorem added_of_ranged (ranged : Ranged low high ahead) (goes : nextToken ahead ≠ .endOfInput) :
    (r.round ahead).1.failures = r.failures ++ r.added ahead ∧ (r.added ahead).length ≤ 1 ∧
      ∀ f ∈ r.added ahead, f.Between low high (r.round ahead).2 := by
  obtain ⟨new, same, short, between⟩ := round_adds (r := r) ranged goes
  have added : r.added ahead = new := by rw [added, same, List.drop_left]
  rw [added]
  exact ⟨same, short, between⟩

/-- What a reading adds comes attempt by attempt, in the order of the lines. -/
structure Gathers (low high : Nat) (attempts : List (List Failure)) : Prop where
  short : ∀ attempt ∈ attempts, attempt.length ≤ 1
  after : ∀ f ∈ attempts.flatten, low ≤ f.line
  before : ∀ f ∈ attempts.flatten, f.line ≤ high
  ordered : attempts.flatten.Pairwise fun f g => f.line ≤ g.line

theorem gathers_nil : Gathers low high [] where
  short := by simp
  after := by simp
  before := by simp
  ordered := List.Pairwise.nil

/-- After an attempt that fails the lines go on from that of its failure. -/
theorem Gathers.cons {new : List Failure} {later : List (List Failure)} {rest : List Lexeme}
    (short : new.length ≤ 1) (between : ∀ f ∈ new, f.Between low high rest)
    (ranged : Ranged low high rest) (gathers : ∀ n, Ranged n high rest → Gathers n high later) :
    Gathers low high (new :: later) := by
  match new with
  | [] =>
    obtain ⟨each, after, before, ordered⟩ := gathers low ranged
    exact ⟨List.forall_mem_cons.mpr ⟨short, each⟩, after, before, ordered⟩
  | [f] =>
    have here := between f List.mem_cons_self
    have further : Ranged f.line high rest :=
      ⟨ranged.closed, here.ahead, ranged.below, ranged.ordered⟩
    obtain ⟨each, after, before, ordered⟩ := gathers f.line further
    refine ⟨List.forall_mem_cons.mpr ⟨short, each⟩, ?_, ?_, ?_⟩
    · refine List.forall_mem_cons.mpr ⟨here.after, fun g member => ?_⟩
      exact Nat.le_trans here.after (after g member)
    · exact List.forall_mem_cons.mpr ⟨here.before, before⟩
    · exact List.pairwise_cons.mpr ⟨after, ordered⟩
  | _ :: _ :: _ => simp at short

theorem gathers_attempts (ranged : Ranged low high ahead) (limit : Nat) :
    Gathers low high (attempts limit r ahead) := by
  induction limit generalizing r low ahead with
  | zero => exact gathers_nil
  | succ limit ih =>
    rw [attempts]
    split
    · exact gathers_nil
    · next goes =>
      obtain ⟨_, short, between⟩ := added_of_ranged (r := r) ranged goes
      obtain ⟨inside, _⟩ := round_suffix (r := r) ranged.closed goes
      exact .cons short between (ranged.of_suffix inside) fun n => ih

theorem run_attempts (ranged : Ranged low high ahead) (limit : Nat) :
    (run limit r ahead).1.failures = r.failures ++ (attempts limit r ahead).flatten ∧
      (run limit r ahead).2 <:+ ahead := by
  induction limit generalizing r ahead with
  | zero => simp [run, attempts]
  | succ limit ih =>
    by_cases last : nextToken ahead = .endOfInput
    · rw [run_end last, attempts, if_pos last]
      simp
    · obtain ⟨inside, _⟩ := round_suffix (r := r) ranged.closed last
      obtain ⟨same, _, _⟩ := added_of_ranged (r := r) ranged last
      obtain ⟨failures, rest⟩ := ih (r := (r.round ahead).1) (ranged.of_suffix inside)
      rw [run_succ last, attempts, if_neg last, List.flatten_cons, ← List.append_assoc, ← same]
      exact ⟨failures, rest.trans inside⟩

/-- A source has the failures of its attempts. Without any it may lack an assertion. -/
theorem failures_ofLexemes {lexemes : List Lexeme} (ranged : Ranged low high lexemes)
    (start : 1 ≤ high) :
    let failures := (attempts lexemes.length {} lexemes).flatten
    (ofLexemes lexemes).failures = failures ∨ failures = [] ∧
      ∃ line rest, line ≤ high ∧ (ofLexemes lexemes).failures = [⟨.noAssertion, line, [], rest⟩] := by
  intro failures
  obtain ⟨same, inside⟩ := run_attempts (r := {}) ranged lexemes.length
  rw [List.nil_append] at same
  unfold ofLexemes
  generalize run lexemes.length {} lexemes = result at same inside
  obtain ⟨r, rest⟩ := result
  dsimp only at same inside ⊢
  split
  · next unstated =>
    obtain ⟨_, empty⟩ := Bool.and_eq_true_iff.mp unstated
    replace empty := List.isEmpty_iff.mp empty
    refine .inr ⟨same.symm.trans empty, nextLine rest, rest, ?_, ?_⟩
    · cases rest with
      | nil => exact start
      | cons lexeme rest => exact ranged.below lexeme (inside.subset List.mem_cons_self)
    · rw [fail, empty]
      rfl
  · exact .inl same

theorem lines_ofLexemes {lexemes : List Lexeme} (ranged : Ranged low high lexemes)
    (start : 1 ≤ high) :
    (∀ f ∈ (ofLexemes lexemes).failures, f.line ≤ high) ∧
      (ofLexemes lexemes).failures.Pairwise fun f g => f.line ≤ g.line := by
  have gathers := gathers_attempts (r := {}) ranged lexemes.length
  rcases failures_ofLexemes ranged start with same | ⟨_, line, rest, before, same⟩
  · rw [same]
    exact ⟨gathers.before, gathers.ordered⟩
  · rw [same]
    refine ⟨fun f member => ?_, List.pairwise_singleton _ _⟩
    obtain rfl := List.mem_singleton.mp member
    exact before

end Reading

namespace Specification

variable {source : String} {errors : SyntaxErrors}

theorem ranged_lex (source : String) :
    Ranged 1 (1 + source.toList.count '\n') (lex source) := by
  have placed : Placed [] source.toList (lex source) := by
    refine Scanner.placed_tokens (s := Scanner.ofSource source) rfl ?_
    exact Nat.le_of_eq String.length_toList
  refine ⟨?_, ?_, ?_, placed.ordered⟩
  · intro lexeme last
    exact .inr (placed.token_of_last lexeme last)
  · intro lexeme member
    exact (placed.line_bounds lexeme member).1
  · intro lexeme member
    exact (placed.line_bounds lexeme member).2

theorem diagnostics_of_parse (broken : parse source = .error errors) :
    let failures := (Reading.ofLexemes (lex source)).failures
    failures ≠ [] ∧ errors.diagnostics = failures.map Failure.report := by
  intro failures
  unfold parse ofLexemes at broken
  dsimp only at broken
  split at broken
  · cases broken
  · next failed =>
    cases broken
    refine ⟨?_, SyntaxErrors.diagnostics_ofFailures failures⟩
    intro empty
    exact failed (List.isEmpty_iff.mpr empty)

/-- A source that does not parse has diagnostics. Each has a message and a token, and names a line
of the source; they come in the order of the lines. An attempt at a statement or a declaration
contributes one at most, and only a source without any is told that it lacks an assertion. -/
theorem diagnostics_ordered (broken : parse source = .error errors) :
    let attempts := Reading.attempts (lex source).length {} (lex source)
    errors.diagnostics ≠ [] ∧
      (∀ d ∈ errors.diagnostics, d.message ≠ "" ∧ d.token ≠ "" ∧
        1 ≤ d.line ∧ d.line ≤ 1 + source.toList.count '\n') ∧
      errors.diagnostics.Pairwise (fun d e => d.line ≤ e.line) ∧
      (∀ attempt ∈ attempts, attempt.length ≤ 1) ∧
      (errors.diagnostics = attempts.flatten.map Failure.report ∨
        attempts.flatten = [] ∧ ∃ line,
          errors.diagnostics = [⟨"expected at least one assertion", line, "ROOT"⟩]) := by
  intro attempts
  have ranged := ranged_lex source
  have start : 1 ≤ 1 + source.toList.count '\n' := Nat.le_add_right _ _
  have gathers := Reading.gathers_attempts (r := {}) ranged (lex source).length
  obtain ⟨before, ordered⟩ := Reading.lines_ofLexemes ranged start
  obtain ⟨nonempty, reports⟩ := diagnostics_of_parse broken
  rw [reports]
  refine ⟨?_, ?_, ?_, gathers.short, ?_⟩
  · intro empty
    exact nonempty (List.map_eq_nil_iff.mp empty)
  · intro d member
    obtain ⟨f, failed, rfl⟩ := List.mem_map.mp member
    obtain ⟨message, token⟩ := f.report_texts
    exact ⟨message, token, Nat.le_max_right _ _, Nat.max_le.mpr ⟨before f failed, start⟩⟩
  · rw [List.pairwise_map]
    refine ordered.imp fun {f g} less => ?_
    show max f.line 1 ≤ max g.line 1
    omega
  · rcases Reading.failures_ofLexemes ranged start with same | ⟨unstated, line, rest, _, same⟩
    · exact .inl (congrArg _ same)
    · exact .inr ⟨unstated, max line 1, congrArg _ same⟩

/-- A declaration that comes too late is reported on the line of its `let`. -/
theorem diagnostics_ordered_late :
    let source := "exists(a); let\nv =\nb; equals(;\nsize(c, -1)"
    let reading := Reading.ofLexemes (lex source)
    let errors := SyntaxErrors.ofFailures reading.failures
    parse source = .error errors ∧ errors.diagnostics.Pairwise (fun d e => d.line ≤ e.line) ∧
      errors.diagnostics.map Diagnostic.line = [1, 3, 4] ∧
      (Reading.attempts (lex source).length {} (lex source)).map List.length = [0, 1, 1, 1] := by
  intro source reading errors
  have fails : reading.failures.isEmpty = false := by decide +kernel
  have broken : parse source = .error errors := by
    unfold parse ofLexemes
    dsimp only
    rw [if_neg (by rw [fails]; exact Bool.false_ne_true)]
  obtain ⟨_, _, ordered, _, _⟩ := diagnostics_ordered broken
  refine ⟨broken, ordered, ?_, by decide +kernel⟩
  rw [(diagnostics_of_parse broken).2]
  decide +kernel

end Specification

end Attest
