import Attest.Proofs.Language.Occurrences
import Attest.Proofs.Syntax.Layout
import Attest.Proofs.Syntax.Preface
/-!
# Spacing

Blanks at an edge of a token change no token, unless a string before them is still to be closed. So
the source is read as before, and what is wrong with it is the same but for the lines.
-/

namespace Attest

open Lexer

/-! ### Blanks in a text -/

/-- Characters that are all blank. -/
def Blanks (run : List Char) : Prop :=
  ∀ c ∈ run, Unicode.isBlank c

namespace Blanks

variable {run gap : List Char}

theorem trivia (blanks : Blanks run) : Trivia run := by
  induction run with
  | nil => exact .nil
  | cons c run ih =>
    obtain ⟨blank, later⟩ := List.forall_mem_cons.mp blanks
    exact .blank blank (ih later)

theorem stopsLike (blanks : Blanks run) (text rest : List Char) :
    StopsLike (text ++ rest) (text ++ (run ++ rest)) := by
  cases run with
  | nil => exact .refl _
  | cons c run =>
    have blank : Unicode.isBlank c := blanks c List.mem_cons_self
    exact (separates_of_isBlank blank).stopsLike_append text rest (run ++ rest)

/-- If a comment goes up to the end, the first line end of the blanks ends it. -/
theorem endTrivia (blanks : Blanks run) (ends : EndTrivia gap) : EndTrivia (gap ++ run) := by
  cases ends with
  | closed closed => exact .closed (closed.append blanks.trivia)
  | @comment before mark line passed marked inside =>
    rcases line_cases run with open' | ⟨more, rest, rfl, inner⟩
    · have longer : '\n' ∉ line ++ run := List.not_mem_append inside open'
      have whole := EndTrivia.comment passed marked longer
      simpa only [List.append_assoc] using whole
    · have later : Blanks rest := fun c member =>
        blanks c (List.mem_append_right _ (List.mem_cons_of_mem _ member))
      have longer : '\n' ∉ line ++ more := List.not_mem_append inside inner
      have whole := passed.append (Trivia.comment marked longer later.trivia)
      exact .closed (by simpa only [List.append_assoc, List.cons_append] using whole)

end Blanks

namespace Lexer

theorem EndTrivia.trivia_eq {gap : List Char} (ends : EndTrivia gap) : trivia false gap = gap := by
  cases ends with
  | closed closed => simpa [trivia] using closed.trivia_append []
  | comment before marked inside =>
    have line := trivia_line inside []
    rw [List.append_nil, trivia, List.append_nil] at line
    rw [before.trivia_append, trivia_mark marked, line]

theorem token?_endTrivia {gap : List Char} (ends : EndTrivia gap) : token? gap = none := by
  rw [token?, ends.trivia_eq, List.drop_length]

/-- Text without open strings is scanned as the same tokens before all that stops them like the
rest. -/
theorem Scans.replace_rest {text rest rest' : List Char} {ts : List Token}
    (scans : Scans (text ++ rest) ts rest)
    (stops : ∀ more, StopsLike (more ++ rest) (more ++ rest'))
    (closed : ∀ t ∈ ts, ¬ t.IsUnterminated) : Scans (text ++ rest') ts rest' := by
  generalize split : text ++ rest = cs at scans
  induction scans generalizing text with
  | nil cs =>
    obtain rfl : text = [] := by simpa using split
    exact .nil rest'
  | @cons cs mid rest t ts first later ih =>
    obtain ⟨inner, same⟩ := later.suffix
    obtain ⟨before, whole⟩ := (single first).suffix
    obtain ⟨here, onward⟩ := List.forall_mem_cons.mp closed
    obtain rfl : text = before ++ inner := by
      have parts : text ++ rest = before ++ inner ++ rest := by
        rw [split, whole, same, List.append_assoc]
      exact List.append_cancel_right parts
    rw [same, whole, same] at first
    rw [List.append_assoc]
    exact .cons (token?_replace (stops inner) (fun _ => here) first) (ih stops onward same.symm)

end Lexer

/-! ### Edges of tokens -/

/-- The characters before and behind an edge of a token. Behind the tokens that were scanned comes
a gap, if any, then the edge. -/
inductive Edge (us : List Token) : List Char → List Char → Prop
  | token {front gap rest : List Char} (scans : Scans (front ++ (gap ++ rest)) us (gap ++ rest))
      (passed : Trivia gap) : Edge us (front ++ gap) rest
  | stop {front gap : List Char} (scans : Scans (front ++ gap) us gap) (ends : EndTrivia gap) :
      Edge us (front ++ gap) []

theorem Occurs.edge {cs : List Char} {l : Lexeme} {place : Nat} (occurs : Occurs cs l)
    (atEdge : place = l.start.offset ∨ place = l.stop.offset) :
    ∃ us, Edge us (cs.take place) (cs.drop place) := by
  cases occurs with
  | @token us front gap more after rest c scans split passed reads found whole start stop =>
    rcases atEdge with rfl | rfl
    · rw [start, split, ← List.append_assoc, List.take_left, List.drop_left]
      rw [split] at scans
      exact ⟨us, .token scans passed⟩
    · have parts : cs = front ++ gap ++ c :: more ++ ([] ++ rest) := by
        rw [split, whole, List.nil_append]
        simp only [List.append_assoc]
      have onward : Scans cs (us ++ [l.token]) ([] ++ rest) := scans.append (.single found)
      rw [stop, parts, List.nil_append, List.take_left, List.drop_left]
      rw [parts] at onward
      refine ⟨us ++ [l.token], ?_⟩
      simpa using Edge.token onward .nil
  | @stop us front gap scans split ends token start stop =>
    have last : place = cs.length := by
      rcases atEdge with rfl | rfl
      · exact start
      · exact stop
    rw [last, List.take_length, List.drop_length, split]
    rw [split] at scans
    exact ⟨us, .stop scans ends⟩

/-- Blanks at an edge are passed over. -/
theorem Edge.insert {us ts : List Token} {before after run : List Char}
    (edge : Edge us before after) (blanks : Blanks run) (whole : Whole (before ++ after) ts)
    (closed : ∀ t ∈ ts, ¬ t.IsUnterminated) : Whole (before ++ (run ++ after)) ts := by
  cases edge with
  | @token front gap _ scans passed =>
    rw [List.append_assoc] at whole
    obtain ⟨vs, rfl, later⟩ := whole.of_scans scans
    rw [List.append_assoc]
    refine .append (scans.replace_rest (fun more => ?_) fun t member => ?_) ?_
    · rw [← List.append_assoc, ← List.append_assoc]
      exact blanks.stopsLike (more ++ gap) after
    · exact closed t (List.mem_append_left vs member)
    · rw [Whole.trivia_iff passed] at later ⊢
      exact (Whole.trivia_iff blanks.trivia).mpr later
  | @stop front gap scans ends =>
    rw [List.append_nil] at whole
    obtain ⟨vs, rfl, later⟩ := whole.of_scans scans
    rw [List.append_nil, List.append_assoc]
    refine .append (scans.replace_rest (fun more => ?_) fun t member => ?_) ?_
    · have stops := blanks.stopsLike (more ++ gap) []
      rwa [List.append_nil, List.append_nil, List.append_assoc] at stops
    · exact closed t (List.mem_append_left vs member)
    · obtain ⟨rest, scanned, done⟩ := later
      cases scanned with
      | nil => exact ⟨gap ++ run, .nil _, token?_endTrivia (blanks.endTrivia ends)⟩
      | cons first _ => cases (token?_endTrivia ends).symm.trans first

/-! ### Errors but for their lines -/

namespace SyntaxErrors

/-- The errors as they are on no line in particular. -/
def withoutLines (e : SyntaxErrors) : SyntaxErrors :=
  { e with errors := e.errors.map fun error => { error with line := 0 } }

variable {R : LineRelation} {e e' : SyntaxErrors} {f g : Failure} {fs gs : List Failure}

theorem withoutLines_add (same : e.withoutLines = e'.withoutLines) (alike : f.Alike R g) :
    (e.add f).withoutLines = (e'.add g).withoutLines := by
  obtain ⟨errors, tree⟩ := SyntaxErrors.mk.inj same
  simp only [withoutLines, add, List.map_append, errors, tree, alike.trail, alike.fault,
    List.map_cons, List.map_nil]

theorem withoutLines_ofFailures (alike : List.Forall₂ (Failure.Alike R) fs gs) :
    (ofFailures fs).withoutLines = (ofFailures gs).withoutLines := by
  have onward : ∀ e e' : SyntaxErrors, e.withoutLines = e'.withoutLines →
      (fs.foldl add e).withoutLines = (gs.foldl add e').withoutLines := by
    induction alike with
    | nil => exact fun _ _ same => same
    | cons first _ ih => exact fun e e' same => ih _ _ (withoutLines_add same first)
  exact onward _ _ rfl

end SyntaxErrors

/-- Lines make no difference. -/
def LineRelation.any : LineRelation := ⟨fun _ _ => True, trivial⟩

/-- The same tokens are read alike, wherever they stand. -/
theorem Specification.ofLexemes_congr {xs ys : List Lexeme}
    (same : xs.map Lexeme.token = ys.map Lexeme.token) :
    (ofLexemes xs).mapError SyntaxErrors.withoutLines =
      (ofLexemes ys).mapError SyntaxErrors.withoutLines := by
  have tokens : List.Forall₂ Eq (xs.map Lexeme.token) (ys.map Lexeme.token) := by
    rwa [List.forall₂_eq_eq_eq]
  have facing : Facing .any xs ys :=
    (List.forall₂_map_right_iff.mp (List.forall₂_map_left_iff.mp tokens)).imp
      fun _ _ same => ⟨same, trivial⟩
  have alike := Reading.Alike.ofLexemes facing
  have errors := SyntaxErrors.withoutLines_ofFailures alike.failures
  have accepted : (Reading.ofLexemes xs).failures.isEmpty =
      (Reading.ofLexemes ys).failures.isEmpty := by
    rw [Bool.eq_iff_iff, List.isEmpty_iff_length_eq_zero, List.isEmpty_iff_length_eq_zero,
      alike.failures.length_eq]
  unfold ofLexemes
  dsimp only
  rw [accepted]
  split
  · rw [Reading.tree, Reading.tree, alike.declarations, alike.statements]
  · exact congrArg Except.error errors

/-! ### Sources -/

/-- The source with more characters at a place. -/
def spaced (source : String) (place : Nat) (run : List Char) : String :=
  String.ofList (source.toList.take place ++ (run ++ source.toList.drop place))

/-- Blanks directly before or behind a token leave all tokens as they are, so the source is parsed
with the same result: the same specification, or the same errors but for their lines. -/
theorem Specification.parse_spaced {source : String} {l : Lexeme} {place : Nat} {run : List Char}
    (closed : ∀ l ∈ lex source, ¬ l.token.IsUnterminated) (member : l ∈ lex source)
    (edge : place = l.start.offset ∨ place = l.stop.offset) (blanks : Blanks run) :
    (lex (spaced source place run)).map Lexeme.token = (lex source).map Lexeme.token ∧
      (parse (spaced source place run)).mapError SyntaxErrors.withoutLines =
        (parse source).mapError SyntaxErrors.withoutLines := by
  obtain ⟨ts, whole⟩ : ∃ ts, Whole source.toList ts := Scans.exists_to_end source.toList
  have tokens : ReadsAs source ts := readsAs_iff.mpr whole
  have settled : ∀ t ∈ ts, ¬ t.IsUnterminated := by
    intro t among
    have here : t ∈ (lex source).map Lexeme.token := by
      rw [tokens]
      exact List.mem_append_left _ among
    obtain ⟨k, found, rfl⟩ := List.mem_map.mp here
    exact closed k found
  obtain ⟨us, seam⟩ := (occurs_of_mem_lex member).edge edge
  have inserted : Whole (spaced source place run).toList ts := by
    rw [spaced, String.toList_ofList]
    refine seam.insert blanks ?_ settled
    rwa [List.take_append_drop]
  have same : (lex (spaced source place run)).map Lexeme.token = (lex source).map Lexeme.token :=
    (readsAs_iff.mpr inserted : ReadsAs _ ts).trans tokens.symm
  exact ⟨same, ofLexemes_congr same⟩

/-- A line end between a comma and a sign. -/
theorem Specification.parse_spaced_before_sign :
    spaced "equals(a,-1)" 9 ['\n', ' '] = "equals(a,\n -1)" ∧
      (parse "equals(a,\n -1)").mapError SyntaxErrors.withoutLines =
        (parse "equals(a,-1)").mapError SyntaxErrors.withoutLines := by
  have written : spaced "equals(a,-1)" 9 ['\n', ' '] = "equals(a,\n -1)" := by decide
  have closed : ∀ l ∈ lex "equals(a,-1)", ¬ l.token.IsUnterminated := by decide +kernel
  have member : ⟨.integer (-1), ⟨9, 1, 10⟩, ⟨11, 1, 12⟩⟩ ∈ lex "equals(a,-1)" := by decide +kernel
  have blanks : Blanks ['\n', ' '] :=
    List.forall_mem_cons.mpr ⟨by decide, List.forall_mem_singleton.mpr (by decide)⟩
  refine ⟨written, ?_⟩
  rw [← written]
  exact (parse_spaced closed member (.inl rfl) blanks).2

end Attest
