import Attest.Proofs.Syntax.Diagnostics
import Attest.Proofs.Syntax.Locality
import Attest.Proofs.Syntax.Sources
/-!
# Recovery

After a broken statement the reading goes on as if the statement had not been there. What the
statements before a semicolon leave behind is the names they declare, whether there was an
assertion, and their own failures.
-/

namespace Attest

/-- The last token, if any, is a semicolon or the end of input. -/
def Closed (ahead : List Lexeme) : Prop :=
  ∀ lexeme ∈ ahead.getLast?, lexeme.token = .semicolon ∨ lexeme.token = .endOfInput

namespace Closed

variable {ahead rest : List Lexeme}

theorem of_suffix (closed : Closed ahead) (within : rest <:+ ahead) : Closed rest := by
  obtain ⟨before, rfl⟩ := within
  intro lexeme last
  refine closed lexeme ?_
  rw [List.getLast?_append, Option.mem_def.mp last]
  rfl

theorem append (first : Closed ahead) (second : Closed rest) : Closed (ahead ++ rest) := by
  intro lexeme last
  rw [List.getLast?_append] at last
  cases found : rest.getLast? with
  | none =>
    rw [found, Option.none_or] at last
    exact first lexeme last
  | some other =>
    rw [found, Option.some_or, Option.mem_some] at last
    exact second lexeme (last ▸ found)

theorem of_semicolon (last : ahead.getLast?.map Lexeme.token = some .semicolon) :
    Closed ahead := by
  intro lexeme here
  rw [Option.mem_def.mp here] at last
  exact .inl (Option.some.inj last)

theorem append_end (ahead : List Lexeme) {stop : Lexeme} (stops : stop.token = .endOfInput) :
    Closed (ahead ++ [stop]) := by
  intro lexeme last
  rw [List.getLast?_append, List.getLast?_singleton, Option.some_or, Option.mem_some] at last
  subst last
  exact .inr stops

theorem fenced (closed : Closed ahead) (nonempty : ahead ≠ []) : Fenced ahead := by
  refine ⟨ahead.getLast nonempty, List.getLast_mem nonempty, ?_⟩
  rcases closed _ (List.getLast?_eq_some_getLast nonempty) with here | here
  · exact .inl here
  · exact .inr (.inr here)

end Closed

/-! ### The place to go on -/

namespace Parser

variable {ahead : List Lexeme}

theorem recover_suffix (ahead : List Lexeme) : recover ahead <:+ ahead := by
  fun_induction recover ahead with
  | case1 => exact List.suffix_refl _
  | case2 => exact List.suffix_refl _
  | case3 => exact List.suffix_refl _
  | case4 => exact List.suffix_cons _ _
  | case5 lexeme ahead _ _ _ ih => exact ih.trans (List.suffix_cons _ _)

theorem recover_suffix_tail (noEnd : nextToken ahead ≠ .endOfInput)
    (noLet : nextToken ahead ≠ .letWord) : recover ahead <:+ ahead.tail := by
  cases ahead with
  | nil => exact List.suffix_refl _
  | cons lexeme ahead =>
    unfold recover
    split
    · next last => exact absurd last noEnd
    · next begins => exact absurd begins noLet
    · exact List.suffix_refl _
    · exact recover_suffix ahead

theorem recover_append (fenced : Fenced ahead) (more : List Lexeme) :
    recover (ahead ++ more) = recover ahead ++ more := by
  fun_induction recover ahead with
  | case1 =>
    obtain ⟨_, _, _⟩ := fenced.eq_cons
    contradiction
  | case2 lexeme ahead here => simp only [List.cons_append, recover, here]
  | case3 lexeme ahead here => simp only [List.cons_append, recover, here]
  | case4 lexeme ahead here => simp only [List.cons_append, recover, here]
  | case5 lexeme ahead noEnd noLet noSemicolon ih =>
    have inner : ¬ lexeme.token.IsBoundary := by
      rintro (here | here | here)
      · exact noSemicolon here
      · exact noLet here
      · exact noEnd here
    rw [List.cons_append, recover]
    split
    · next here => exact absurd here noEnd
    · next here => exact absurd here noLet
    · next here => exact absurd here noSemicolon
    · exact ih (fenced.of_cons inner)

theorem length_recover_lt {rest : List Lexeme} (within : rest <:+ ahead) (nonempty : ahead ≠ [])
    (noEnd : nextToken ahead ≠ .endOfInput) (noLet : nextToken ahead ≠ .letWord) :
    (recover rest).length < ahead.length := by
  have positive := List.length_pos_iff.mpr nonempty
  by_cases unmoved : rest.length = ahead.length
  · -- Nothing of the statement was passed, and its first token is not one to go on from.
    obtain rfl := within.eq_of_length unmoved
    have shorter := (recover_suffix_tail noEnd noLet).length_le
    rw [List.length_tail] at shorter
    omega
  · have less := within.length_le
    have shorter := (recover_suffix rest).length_le
    omega

end Parser

namespace Reading

variable {r r' : Reading} {ahead before more : List Lexeme} {limit : Nat}

/-! ### Rounds -/

/-- What a reading does before it goes on, and where it goes on. -/
def round (r : Reading) (ahead : List Lexeme) : Reading × List Lexeme :=
  match nextToken ahead with
  | .endOfInput => (r, ahead)
  | .semicolon => (r, ahead.tail)
  | .letWord =>
    match Parser.declaration ahead with
    | .ok (d, rest) => (r.declare (nextLine ahead) d rest, rest)
    | .error failure => (r.fail failure, Parser.recover failure.rest)
  | _ =>
    match Parser.statement r.declared ahead with
    | .ok (tree, rest) => (r.assert tree, rest)
    | .error failure => (r.fail failure, Parser.recover failure.rest)

theorem run_succ (goes : nextToken ahead ≠ .endOfInput) :
    run (limit + 1) r ahead = run limit (r.round ahead).1 (r.round ahead).2 := by
  rw [run]
  unfold round
  generalize nextToken ahead = t at goes
  cases t with
  | endOfInput => exact absurd rfl goes
  | semicolon => rfl
  | letWord => cases Parser.declaration ahead <;> rfl
  | _ => cases Parser.statement r.declared ahead <;> rfl

theorem eq_cons_of_let (closed : Closed ahead) (here : nextToken ahead = .letWord) :
    ∃ lexeme rest, ahead = lexeme :: rest ∧ Fenced rest := by
  cases ahead with
  | nil => cases here
  | cons lexeme rest =>
    refine ⟨lexeme, rest, rfl, ?_⟩
    have within : rest <:+ lexeme :: rest := List.suffix_cons _ _
    refine (closed.of_suffix within).fenced fun last => ?_
    subst last
    rcases closed lexeme rfl with other | other
    · cases here.symm.trans other
    · cases here.symm.trans other

theorem ne_nil_of_goes (goes : nextToken ahead ≠ .endOfInput) : ahead ≠ [] := by
  rintro rfl
  exact goes rfl

/-- A round leaves an end of the tokens, and passes one at least. -/
theorem round_suffix (closed : Closed ahead) (goes : nextToken ahead ≠ .endOfInput) :
    (r.round ahead).2 <:+ ahead ∧ (r.round ahead).2.length < ahead.length := by
  have nonempty := ne_nil_of_goes goes
  unfold round
  split
  · next last => exact absurd last goes
  · refine ⟨List.tail_suffix ahead, ?_⟩
    have positive := List.length_pos_iff.mpr nonempty
    rw [List.length_tail]
    omega
  · next here =>
    obtain ⟨lexeme, rest, rfl, fenced⟩ := eq_cons_of_let closed here
    have framed := Parser.framed_afterLet fenced
    have within : rest <:+ lexeme :: rest := List.suffix_cons _ _
    rw [Parser.declaration_cons]
    split
    · next d mid read =>
      have inside := (framed.ok d mid read).2
      exact ⟨inside.trans within, Nat.lt_succ_of_le inside.length_le⟩
    · next failure read =>
      have inside := (Parser.recover_suffix _).trans (framed.error failure read).2
      exact ⟨inside.trans within, Nat.lt_succ_of_le inside.length_le⟩
  · next noEnd noSemicolon noLet =>
    have framed := Parser.framed_statement r.declared (closed.fenced nonempty)
    split
    · next tree mid read =>
      have round : Round r ahead (r.assert tree) mid :=
        .statement ⟨noEnd, noSemicolon, noLet⟩ read
      exact ⟨(framed.ok tree mid read).2, round.length_lt⟩
    · next failure read =>
      have inside := (framed.error failure read).2
      exact ⟨(Parser.recover_suffix _).trans inside,
        Parser.length_recover_lt inside nonempty noEnd noLet⟩

/-! ### Readings without a limit -/

/-- Reads all of the tokens. -/
def onward (r : Reading) (ahead : List Lexeme) : Reading × List Lexeme :=
  run ahead.length r ahead

/-- A limit beyond the number of tokens is none. -/
theorem run_limit {other : Nat} (closed : Closed ahead) (enough : ahead.length ≤ limit)
    (enough' : ahead.length ≤ other) : run limit r ahead = run other r ahead := by
  induction limit generalizing other r ahead with
  | zero =>
    obtain rfl := List.length_eq_zero_iff.mp (Nat.le_zero.mp enough)
    rw [run_end rfl, run_end rfl]
  | succ limit ih =>
    by_cases last : nextToken ahead = .endOfInput
    · rw [run_end last, run_end last]
    · obtain ⟨inside, shorter⟩ := round_suffix (r := r) closed last
      obtain ⟨less, rfl⟩ : ∃ less, other = less + 1 := ⟨other - 1, by omega⟩
      rw [run_succ last, run_succ last]
      exact ih (closed.of_suffix inside) (by omega) (by omega)

theorem onward_end (last : nextToken ahead = .endOfInput) : r.onward ahead = (r, ahead) :=
  run_end last

theorem onward_round (closed : Closed ahead) (goes : nextToken ahead ≠ .endOfInput) :
    r.onward ahead = (r.round ahead).1.onward (r.round ahead).2 := by
  obtain ⟨inside, shorter⟩ := round_suffix (r := r) closed goes
  obtain ⟨less, length⟩ : ∃ less, ahead.length = less + 1 := ⟨ahead.length - 1, by omega⟩
  unfold onward
  rw [length, run_succ goes]
  exact run_limit (closed.of_suffix inside) (by omega) (Nat.le_refl _)

/-! ### What follows later -/

def followed (more : List Lexeme) (r : Reading) : Reading :=
  { r with failures := r.failures.map (Failure.followed more) }

theorem fail_followed (f : Failure) :
    (r.followed more).fail (f.followed more) = (r.fail f).followed more := by
  simp [fail, followed]

theorem declare_followed (line : Nat) (d : Declaration) (rest : List Lexeme) :
    (r.followed more).declare line d (rest ++ more) = (r.declare line d rest).followed more := by
  unfold declare followed
  cases r.statements <;> simp [Failure.followed]

/-- A round before the end of a closed part is the same whatever follows the part. -/
theorem round_followed (closed : Closed ahead) (goes : nextToken ahead ≠ .endOfInput) :
    (r.followed more).round (ahead ++ more) =
      ((r.round ahead).1.followed more, (r.round ahead).2 ++ more) := by
  have nonempty := ne_nil_of_goes goes
  have fenced := closed.fenced nonempty
  unfold round
  rw [fenced.nextToken_append, fenced.nextLine_append]
  split
  · next last => exact absurd last goes
  · obtain ⟨lexeme, rest, rfl⟩ := fenced.eq_cons
    rfl
  · next here =>
    obtain ⟨lexeme, rest, rfl, later⟩ := eq_cons_of_let closed here
    have framed := Parser.framed_afterLet later
    rw [List.cons_append, Parser.declaration_cons, Parser.declaration_cons, framed.frame]
    cases read : Parser.afterLet rest with
    | ok result => simp only [Parser.followed, declare_followed]
    | error failure =>
      have stops := (framed.error failure read).1
      exact Prod.ext (fail_followed failure) (Parser.recover_append stops more)
  · have framed := Parser.framed_statement r.declared fenced
    have same : (r.followed more).declared = r.declared := rfl
    rw [same, framed.frame]
    cases read : Parser.statement r.declared ahead with
    | ok result => rfl
    | error failure =>
      have stops := (framed.error failure read).1
      exact Prod.ext (fail_followed failure) (Parser.recover_append stops more)

/-- A reading passes a closed part and goes on at the top level, with what it read of the part. -/
theorem onward_followed (closed : Closed before)
    (noEnd : ∀ lexeme ∈ before, lexeme.token ≠ .endOfInput) (ends : Closed more) :
    (r.followed more).onward (before ++ more) =
      ((r.onward before).1.followed more).onward more := by
  -- On the number of tokens of the part: a round leaves an end of it, which is closed as well.
  induction length : before.length using Nat.strongRecOn generalizing r before with
  | ind n ih =>
    cases before with
    | nil =>
      have empty : r.onward [] = (r, []) := onward_end rfl
      rw [empty, List.nil_append]
    | cons lexeme rest =>
      have goes : nextToken (lexeme :: rest) ≠ .endOfInput := noEnd lexeme List.mem_cons_self
      have goes' : nextToken (lexeme :: rest ++ more) ≠ .endOfInput := goes
      obtain ⟨inside, shorter⟩ := round_suffix (r := r) closed goes
      rw [onward_round closed goes, onward_round (closed.append ends) goes',
        round_followed closed goes]
      exact ih _ (by omega) (closed.of_suffix inside)
        (fun other member => noEnd other (inside.subset member)) rfl

end Reading

/-! ### What earlier statements leave behind -/

namespace Parser

variable {declared others : List String}

theorem statement_congr (same : ∀ name, name ∈ declared ↔ name ∈ others) :
    statement declared = statement others := by
  have names : ∀ name, declared.contains name = others.contains name := by
    intro name
    rw [Bool.eq_iff_iff, List.contains_iff_mem, List.contains_iff_mem]
    exact same name
  have operands : operand declared = operand others := by
    unfold operand
    simp only [names]
  have assertions : assertion declared = assertion others := by
    unfold assertion leftOperand rightOperand
    rw [operands]
  have leaves : leaf declared = leaf others := by
    unfold leaf
    rw [assertions]
  have parts : ∀ room, part declared room = part others room := by
    intro room
    induction room with
    | zero =>
      unfold part
      rw [leaves]
    | succ room ih =>
      unfold part
      rw [leaves, ih]
  unfold statement
  rw [parts]

end Parser

namespace Reading

variable {r r' : Reading} {ahead before after : List Lexeme} {limit : Nat}

theorem declared_declare (line : Nat) (d : Declaration) (rest : List Lexeme) :
    (r.declare line d rest).declared = r.declared ++ [d.name] := by
  simp [declared, declare]

/-- Two readings after the same was read in both. -/
inductive Together (r r' : Reading) : Reading → Reading → Prop
  | refl : Together r r' r r'
  | declare {next next' : Reading} (before : Together r r' next next') (line : Nat)
      (d : Declaration) (rest : List Lexeme) :
      Together r r' (next.declare line d rest) (next'.declare line d rest)
  | assert {next next' : Reading} (before : Together r r' next next') (tree : AssertionTree) :
      Together r r' (next.assert tree) (next'.assert tree)
  | fail {next next' : Reading} (before : Together r r' next next') (f : Failure) :
      Together r r' (next.fail f) (next'.fail f)

/-- The same names are declared. -/
def SameNames (r r' : Reading) : Prop :=
  ∀ name, name ∈ r.declared ↔ name ∈ r'.declared

theorem SameNames.declare (same : SameNames r r') (line : Nat) (d : Declaration)
    (rest : List Lexeme) : SameNames (r.declare line d rest) (r'.declare line d rest) := by
  intro name
  rw [declared_declare, declared_declare, List.mem_append, List.mem_append, same]

theorem Together.sameNames {next next' : Reading} (together : Together r r' next next')
    (same : SameNames r r') : SameNames next next' := by
  induction together with
  | refl => exact same
  | declare _ line d rest ih => exact ih.declare line d rest
  | assert _ tree ih => exact ih
  | fail _ f ih => exact ih

theorem Together.round {next next' : Reading} (together : Together r r' next next')
    (same : SameNames r r') (ahead : List Lexeme) :
    Together r r' (next.round ahead).1 (next'.round ahead).1 ∧
      (next.round ahead).2 = (next'.round ahead).2 := by
  unfold Reading.round
  rw [Parser.statement_congr (together.sameNames same)]
  split
  · exact ⟨together, rfl⟩
  · exact ⟨together, rfl⟩
  · split
    · exact ⟨together.declare _ _ _, rfl⟩
    · exact ⟨together.fail _, rfl⟩
  · split
    · exact ⟨together.assert _, rfl⟩
    · exact ⟨together.fail _, rfl⟩

/-- Only through the names that are declared does what is read depend on what was read before. -/
theorem Together.run {next next' : Reading} (together : Together r r' next next')
    (same : SameNames r r') (limit : Nat) (ahead : List Lexeme) :
    Together r r' (run limit next ahead).1 (run limit next' ahead).1 := by
  induction limit generalizing next next' ahead with
  | zero => exact together
  | succ limit ih =>
    by_cases last : nextToken ahead = .endOfInput
    · rw [run_end last, run_end last]
      exact together
    · obtain ⟨later, place⟩ := together.round same ahead
      rw [run_succ last, run_succ last, ← place]
      exact ih later _

/-- The same names are declared, and both have an assertion or neither has. -/
structure SameFacts (r r' : Reading) : Prop where
  declared : ∀ name, name ∈ r.declared ↔ name ∈ r'.declared
  assertions : r.statements = [] ↔ r'.statements = []

/-- Both sides add the same failures and end with the same facts. -/
structure Adds (r r' next next' : Reading) : Prop where
  facts : SameFacts next next'
  failures : ∃ new, next.failures = r.failures ++ new ∧ next'.failures = r'.failures ++ new

theorem Adds.trans {mid mid' next next' : Reading} (first : Adds r r' mid mid')
    (second : Adds mid mid' next next') : Adds r r' next next' := by
  obtain ⟨new, here, there⟩ := first.failures
  obtain ⟨more, here', there'⟩ := second.failures
  refine ⟨second.facts, new ++ more, ?_, ?_⟩
  · rw [here', here, List.append_assoc]
  · rw [there', there, List.append_assoc]

theorem SameFacts.refl_adds (same : SameFacts r r') : Adds r r' r r' :=
  ⟨same, [], by simp, by simp⟩

theorem SameFacts.fail (same : SameFacts r r') (f : Failure) :
    Adds r r' (r.fail f) (r'.fail f) :=
  ⟨⟨same.declared, same.assertions⟩, [f], rfl, rfl⟩

theorem SameFacts.assert (same : SameFacts r r') (tree : AssertionTree) :
    Adds r r' (r.assert tree) (r'.assert tree) := by
  refine ⟨⟨same.declared, ?_⟩, [], ?_, ?_⟩
  · simp [Reading.assert]
  · simp [Reading.assert]
  · simp [Reading.assert]

theorem SameFacts.declare (same : SameFacts r r') (line : Nat) (d : Declaration)
    (rest : List Lexeme) : Adds r r' (r.declare line d rest) (r'.declare line d rest) := by
  have names : SameNames r r' := same.declared
  refine ⟨⟨names.declare line d rest, same.assertions⟩, ?_⟩
  · have late : r.statements.isEmpty = r'.statements.isEmpty := by
      rw [Bool.eq_iff_iff, List.isEmpty_iff, List.isEmpty_iff]
      exact same.assertions
    unfold Reading.declare
    rw [late]
    exact ⟨_, rfl, rfl⟩

theorem SameFacts.together {next next' : Reading} (same : SameFacts r r')
    (together : Together r r' next next') : Adds r r' next next' := by
  induction together with
  | refl => exact same.refl_adds
  | declare _ line d rest ih => exact ih.trans (ih.facts.declare line d rest)
  | assert _ tree ih => exact ih.trans (ih.facts.assert tree)
  | fail _ f ih => exact ih.trans (ih.facts.fail f)

theorem SameFacts.run (same : SameFacts r r') (limit : Nat) (ahead : List Lexeme) :
    Adds r r' (run limit r ahead).1 (run limit r' ahead).1 :=
  same.together (Together.refl.run same.declared limit ahead)

/-! ### Recovery is local -/

def diagnostics (r : Reading) : List Diagnostic :=
  (SyntaxErrors.ofFailures r.failures).diagnostics

theorem diagnostics_eq (r : Reading) : r.diagnostics = r.failures.map Failure.report :=
  SyntaxErrors.diagnostics_ofFailures r.failures

theorem diagnostics_followed (r : Reading) (more : List Lexeme) :
    (r.followed more).diagnostics = r.diagnostics := by
  rw [diagnostics_eq, diagnostics_eq, followed, List.map_map]
  rfl

/-- The errors of tokens that end in a semicolon and of whatever follows are those of each. The
errors of the second part depend on the first only through the names it declares and whether it has
an assertion, and the reading goes on at the top level after the semicolon. -/
theorem diagnostics_onward_append {stop last : Lexeme} {start : Reading}
    (semicolon : before.getLast?.map Lexeme.token = some .semicolon)
    (noEnd : ∀ lexeme ∈ before, lexeme.token ≠ .endOfInput) (stops : stop.token = .endOfInput)
    (lasts : last.token = .endOfInput) (fresh : start.failures = [])
    (carried : start.SameFacts (onward {} (before ++ [stop])).1) :
    (onward {} (before ++ (after ++ [last]))).1.diagnostics =
        (onward {} (before ++ [stop])).1.diagnostics ++
          (onward start (after ++ [last])).1.diagnostics ∧
      (onward {} (before ++ [stop])).2 = [stop] ∧
      ∃ r : Reading, r.SameFacts start ∧
        r.diagnostics = (onward {} (before ++ [stop])).1.diagnostics ∧
        onward {} (before ++ (after ++ [last])) = onward r (after ++ [last]) := by
  have closed := Closed.of_semicolon semicolon
  generalize first : (onward {} before).1 = read
  have alone : onward {} (before ++ [stop]) = (read.followed [stop], [stop]) := by
    have goes := onward_followed (r := {}) closed noEnd (Closed.append_end [] stops)
    rw [first] at goes
    exact goes.trans (onward_end stops)
  have further : onward {} (before ++ (after ++ [last])) =
      (read.followed (after ++ [last])).onward (after ++ [last]) := by
    rw [← first]
    exact onward_followed (r := {}) closed noEnd (Closed.append_end after lasts)
  rw [alone] at carried ⊢
  have facts : (read.followed (after ++ [last])).SameFacts start :=
    ⟨fun name => (carried.declared name).symm, carried.assertions.symm⟩
  obtain ⟨new, whole, second⟩ := (facts.run (after ++ [last]).length (after ++ [last])).failures
  rw [fresh, List.nil_append] at second
  refine ⟨?_, rfl, read.followed (after ++ [last]), facts, ?_, further⟩
  · rw [further, diagnostics_followed, ← diagnostics_followed read (after ++ [last]),
      diagnostics_eq, diagnostics_eq, diagnostics_eq, ← List.map_append]
    unfold onward
    rw [whole, second]
  · rw [diagnostics_followed, diagnostics_followed]

def brokenTokens : List Lexeme :=
  (lex "let v = a; exists(; exists(v);").dropLast

def lateTokens : List Lexeme :=
  (lex "let w = v; exists(v").dropLast

/-- After a broken statement and an assertion a declaration is late, and the declared name is still
a variable. -/
theorem diagnostics_onward_append_late :
    let stop : Lexeme := ⟨.endOfInput, .start, .start⟩
    let start : Reading := { declarations := [⟨"v", []⟩], statements := [.and []] }
    start.SameFacts (onward {} (brokenTokens ++ [stop])).1 ∧
      (onward {} (brokenTokens ++ (lateTokens ++ [stop]))).1.diagnostics = [
        ⟨"expected an operand, found ';'", 1, "exists(...)"⟩,
        ⟨"declarations must precede assertions", 1, "let w = v"⟩,
        ⟨"expected ')', found end of input", 1, "exists($v, ...)"⟩] := by
  intro stop start
  have declared : (onward {} (brokenTokens ++ [stop])).1.declared = ["v"] := by decide +kernel
  have assertion : (onward {} (brokenTokens ++ [stop])).1.statements.isEmpty = false := by
    decide +kernel
  have carried : start.SameFacts (onward {} (brokenTokens ++ [stop])).1 := by
    refine ⟨fun name => ?_, ?_⟩
    · rw [declared]
      exact Iff.rfl
    · rw [← List.isEmpty_iff, ← List.isEmpty_iff, assertion]
      exact Iff.rfl
  have semicolon : brokenTokens.getLast?.map Lexeme.token = some .semicolon := by decide +kernel
  have noEnd : ∀ lexeme ∈ brokenTokens, lexeme.token ≠ .endOfInput := by decide +kernel
  have first : (onward {} (brokenTokens ++ [stop])).1.diagnostics =
      [⟨"expected an operand, found ';'", 1, "exists(...)"⟩] := by decide +kernel
  have second : (start.onward (lateTokens ++ [stop])).1.diagnostics = [
      ⟨"declarations must precede assertions", 1, "let w = v"⟩,
      ⟨"expected ')', found end of input", 1, "exists($v, ...)"⟩] := by decide +kernel
  have stops : stop.token = .endOfInput := rfl
  have joined : (onward {} (brokenTokens ++ (lateTokens ++ [stop]))).1.diagnostics =
      (onward {} (brokenTokens ++ [stop])).1.diagnostics ++
        (start.onward (lateTokens ++ [stop])).1.diagnostics :=
    (diagnostics_onward_append semicolon noEnd stops stops rfl carried).1
  rw [first, second] at joined
  exact ⟨carried, joined⟩

end Reading

end Attest
