import Attest.Proofs.Syntax.Soundness
/-!
# Parsers within a statement

No parser reads beyond the token that ends a statement. What comes after it has no part in what is
read, and a failure stops before it.
-/

namespace Attest

/-- The token ends a statement, or begins one where no other may. -/
def Token.IsBoundary (t : Token) : Prop :=
  t = .semicolon ∨ t = .letWord ∨ t = .endOfInput

instance (t : Token) : Decidable t.IsBoundary :=
  inferInstanceAs (Decidable (_ ∨ _ ∨ _))

@[simp] theorem Token.isBoundary_iff {t : Token} :
    t.IsBoundary ↔ t = .semicolon ∨ t = .letWord ∨ t = .endOfInput := Iff.rfl

/-- Some token is a boundary. -/
def Fenced (ahead : List Lexeme) : Prop :=
  ∃ lexeme ∈ ahead, lexeme.token.IsBoundary

namespace Fenced

variable {ahead : List Lexeme}

theorem eq_cons (fenced : Fenced ahead) : ∃ lexeme rest, ahead = lexeme :: rest := by
  obtain ⟨lexeme, member, _⟩ := fenced
  exact List.exists_cons_of_ne_nil (List.ne_nil_of_mem member)

theorem nextToken_append (fenced : Fenced ahead) (more : List Lexeme) :
    nextToken (ahead ++ more) = nextToken ahead := by
  obtain ⟨lexeme, rest, rfl⟩ := fenced.eq_cons
  rfl

theorem nextLine_append (fenced : Fenced ahead) (more : List Lexeme) :
    nextLine (ahead ++ more) = nextLine ahead := by
  obtain ⟨lexeme, rest, rfl⟩ := fenced.eq_cons
  rfl

theorem of_cons {lexeme : Lexeme} (fenced : Fenced (lexeme :: ahead))
    (inner : ¬ lexeme.token.IsBoundary) : Fenced ahead := by
  obtain ⟨other, member, boundary⟩ := fenced
  rcases List.mem_cons.mp member with rfl | later
  · exact absurd boundary inner
  · exact ⟨other, later, boundary⟩

theorem tail (fenced : Fenced ahead) (inner : ¬ (nextToken ahead).IsBoundary) :
    Fenced ahead.tail := by
  obtain ⟨lexeme, rest, rfl⟩ := fenced.eq_cons
  exact fenced.of_cons inner

end Fenced

def Failure.followed (more : List Lexeme) (f : Failure) : Failure :=
  { f with rest := f.rest ++ more }

namespace Parser

variable {α β : Type} {p : Parser α} {ahead rest : List Lexeme} {left : List Lexeme → Prop}

def followed (more : List Lexeme) :
    Except Failure (α × List Lexeme) → Except Failure (α × List Lexeme)
  | .ok (x, rest) => .ok (x, rest ++ more)
  | .error failure => .error (failure.followed more)

/-- What the parser does with the tokens ahead it does whatever follows them. It leaves an end of
them of a certain kind, and a failure stops before a boundary. -/
structure Framed (left : List Lexeme → Prop) (p : Parser α) (ahead : List Lexeme) : Prop where
  frame : ∀ more, p (ahead ++ more) = followed more (p ahead)
  ok : ∀ x rest, p ahead = .ok (x, rest) → left rest ∧ rest <:+ ahead
  error : ∀ failure, p ahead = .error failure → Fenced failure.rest ∧ failure.rest <:+ ahead

/-- The parser stays before the first boundary. -/
def Local (p : Parser α) : Prop :=
  ∀ ahead, Fenced ahead → Framed Fenced p ahead

/-! ### Laws -/

theorem framed_pure {x : α} (here : left ahead) : Framed left (pure x : Parser α) ahead where
  frame _ := rfl
  ok := by
    intro y rest read
    cases read
    exact ⟨here, List.suffix_refl _⟩
  error := by
    intro failure read
    cases read

theorem framed_failOn {line : Nat} {fault : SyntaxFault} (fenced : Fenced ahead) :
    Framed left (failOn line fault : Parser α) ahead where
  frame _ := rfl
  ok := by
    intro y rest read
    cases read
  error := by
    intro failure read
    cases read
    exact ⟨fenced, List.suffix_refl _⟩

theorem bind_eq_match (p : Parser α) (f : α → Parser β) (ahead : List Lexeme) :
    (p >>= f) ahead =
      match p ahead with
      | .ok (x, rest) => f x rest
      | .error failure => .error failure := by
  simp only [Bind.bind, StateT.bind, Except.bind]
  cases p ahead <;> rfl

theorem bind_congr {q : Parser α} {f g : α → Parser β} {ahead : List Lexeme}
    (same : p ahead = q ahead) (later : ∀ x rest, q ahead = .ok (x, rest) → f x rest = g x rest) :
    (p >>= f) ahead = (q >>= g) ahead := by
  rw [bind_eq_match, bind_eq_match, same]
  cases read : q ahead with
  | error failure => rfl
  | ok result => exact later result.1 result.2 read

theorem Framed.bind {kind : List Lexeme → Prop} {f : α → Parser β} (first : Framed kind p ahead)
    (next : ∀ x rest, kind rest → Framed left (f x) rest) : Framed left (p >>= f) ahead := by
  have unfolded := bind_eq_match p f
  cases read : p ahead with
  | error failure =>
    refine ⟨fun more => ?_, ?_, ?_⟩
    · rw [unfolded, unfolded, first.frame more, read]
      rfl
    · intro y rest ended
      rw [unfolded, read] at ended
      cases ended
    · intro other ended
      rw [unfolded, read] at ended
      cases ended
      exact first.error failure read
  | ok result =>
    obtain ⟨x, mid⟩ := result
    obtain ⟨fenced, within⟩ := first.ok x mid read
    have later := next x mid fenced
    refine ⟨fun more => ?_, ?_, ?_⟩
    · rw [unfolded, unfolded, first.frame more, read]
      exact later.frame more
    · intro y rest ended
      rw [unfolded, read] at ended
      obtain ⟨kind, inside⟩ := later.ok y rest ended
      exact ⟨kind, inside.trans within⟩
    · intro failure ended
      rw [unfolded, read] at ended
      obtain ⟨kind, inside⟩ := later.error failure ended
      exact ⟨kind, inside.trans within⟩

theorem framed_peek_bind {f : Token → Parser α} (fenced : Fenced ahead)
    (next : Framed left (f (nextToken ahead)) ahead) : Framed left (peek >>= f) ahead where
  frame more := by
    rw [peek_bind, fenced.nextToken_append]
    exact next.frame more
  ok := next.ok
  error := next.error

theorem framed_line_bind {f : Nat → Parser α} (fenced : Fenced ahead)
    (next : Framed left (f (nextLine ahead)) ahead) : Framed left (line >>= f) ahead where
  frame more := by
    rw [line_bind, fenced.nextLine_append]
    exact next.frame more
  ok := next.ok
  error := next.error

theorem framed_fail {fault : SyntaxFault} (fenced : Fenced ahead) :
    Framed left (fail fault : Parser α) ahead :=
  framed_line_bind fenced (framed_failOn fenced)

theorem framed_unexpected {expected : Expected} (fenced : Fenced ahead) :
    Framed left (unexpected expected : Parser α) ahead :=
  framed_peek_bind fenced (framed_fail fenced)

theorem framed_advance (fenced : Fenced ahead) (next : left ahead.tail) :
    Framed left advance ahead where
  frame more := by
    obtain ⟨lexeme, rest, rfl⟩ := fenced.eq_cons
    rfl
  ok := by
    intro u rest read
    obtain rfl := advance_eq_ok.mp read
    exact ⟨next, List.tail_suffix ahead⟩
  error := by
    intro failure read
    cases read

theorem Framed.within {construct : Construct} (framed : Framed left p ahead) :
    Framed left (within construct p) ahead where
  frame more := by
    unfold Parser.within
    rw [framed.frame more]
    cases p ahead <;> rfl
  ok := by
    intro x rest read
    exact framed.ok x rest (within_eq_ok.mp read)
  error := by
    intro failure read
    unfold Parser.within at read
    cases inner : p ahead with
    | ok result =>
      rw [inner] at read
      cases read
    | error cause =>
      rw [inner] at read
      cases read
      exact framed.error cause inner

theorem framed_expect {t : Token} {expected : Expected} (fenced : Fenced ahead)
    (next : nextToken ahead = t → left ahead.tail) : Framed left (expect t expected) ahead := by
  refine framed_peek_bind fenced ?_
  split
  · next here => exact framed_advance fenced (next here)
  · exact framed_unexpected fenced

theorem local_pure (x : α) : Local (pure x : Parser α) :=
  fun _ fenced => framed_pure fenced

theorem Local.bind {f : α → Parser β} (first : Local p) (next : ∀ x, Local (f x)) :
    Local (p >>= f) :=
  fun ahead fenced => (first ahead fenced).bind next

theorem Local.within {construct : Construct} (inner : Local p) : Local (within construct p) :=
  fun ahead fenced => (inner ahead fenced).within

theorem local_expect {t : Token} {expected : Expected} (inner : ¬ t.IsBoundary) :
    Local (expect t expected) := by
  intro ahead fenced
  refine framed_expect fenced fun here => fenced.tail ?_
  rw [here]
  exact inner

theorem framed_advance_bind {f : Unit → Parser α} {t : Token} (fenced : Fenced ahead)
    (here : nextToken ahead = t) (inner : ¬ t.IsBoundary) (next : Local (f ())) :
    Framed Fenced (advance >>= f) ahead := by
  have later : Fenced ahead.tail := fenced.tail (by rw [here]; exact inner)
  exact (framed_advance fenced later).bind fun _ => next

/-- A parser that does what another does further on. -/
theorem Framed.skip {q : Parser α} (framed : Framed left q rest) (within : rest <:+ ahead)
    (same : ∀ more, p (ahead ++ more) = q (rest ++ more)) : Framed left p ahead := by
  have here : p ahead = q rest := by simpa using same []
  refine ⟨fun more => ?_, fun x last read => ?_, fun failure read => ?_⟩
  · rw [same, here]
    exact framed.frame more
  · rw [here] at read
    obtain ⟨kind, inside⟩ := framed.ok x last read
    exact ⟨kind, inside.trans within⟩
  · rw [here] at read
    obtain ⟨kind, inside⟩ := framed.error failure read
    exact ⟨kind, inside.trans within⟩

/-! ### Paths -/

theorem not_boundary_of_bracketStep {t : Token} {step : Step} (read : bracketStep t = .ok step) :
    ¬ t.IsBoundary := by
  rintro (rfl | rfl | rfl) <;> cases read

theorem local_steps (around : Path → Construct) (found : Path) : Local (steps around found) := by
  intro ahead fenced
  fun_induction steps around found ahead with
  | case1 found start stop name start' stop' ahead ih =>
    have later : Fenced ahead :=
      (fenced.of_cons (by simp)).of_cons (by simp)
    exact (ih later).skip ⟨[_, _], rfl⟩ fun _ => rfl
  | case2 found start stop start' stop' ahead ih =>
    have later : Fenced ahead :=
      (fenced.of_cons (by simp)).of_cons (by simp)
    exact (ih later).skip ⟨[_, _], rfl⟩ fun _ => rfl
  | case3 found start stop ahead noName noStar =>
    have later : Fenced ahead := fenced.of_cons (by simp)
    let fails : Parser Path := within (around found) (unexpected .stepName)
    have stops : Framed Fenced fails ahead := (framed_unexpected later).within
    refine stops.skip (List.suffix_cons _ _) fun more => ?_
    obtain ⟨⟨token, start', stop'⟩, rest, rfl⟩ := later.eq_cons
    cases token with
    | identifier name => exact absurd rfl (noName name start' stop' rest)
    | star => exact absurd rfl (noStar start' stop' rest)
    | _ => rfl
  | case4 found start stop =>
    obtain ⟨_, _, _⟩ := (fenced.of_cons (by simp)).eq_cons
    contradiction
  | case5 found start stop key ahead fault failed =>
    have later : Fenced (key :: ahead) := fenced.of_cons (by simp)
    let fails : Parser Path := within (around found) (fail fault)
    have stops : Framed Fenced fails (key :: ahead) := (framed_fail later).within
    refine stops.skip (List.suffix_cons _ _) fun more => ?_
    simp only [List.cons_append, steps, failed, fails]
  | case6 found start stop key step read start' stop' ahead ih =>
    have later : Fenced ahead :=
      ((fenced.of_cons (by simp)).of_cons
        (not_boundary_of_bracketStep read)).of_cons (by simp)
    refine (ih later).skip ⟨[_, _, _], rfl⟩ fun more => ?_
    simp only [List.cons_append, steps, read]
  | case7 found start stop key step read ahead noBracket =>
    have later : Fenced ahead :=
      (fenced.of_cons (by simp)).of_cons (not_boundary_of_bracketStep read)
    let fails : Parser Path :=
      within (around found) (within (.step step) (unexpected .rightBracket))
    have stops : Framed Fenced fails ahead := (framed_unexpected later).within.within
    refine stops.skip ⟨[_, _], rfl⟩ fun more => ?_
    obtain ⟨⟨token, start', stop'⟩, rest, rfl⟩ := later.eq_cons
    simp only [List.cons_append, steps, read]
    cases token with
    | rightBracket => exact absurd rfl (noBracket start' stop' rest)
    | _ => rfl
  | case8 found ahead noDot noBracket =>
    refine (framed_pure (x := found) fenced).skip (List.suffix_refl _) fun more => ?_
    obtain ⟨⟨token, start, stop⟩, rest, rfl⟩ := fenced.eq_cons
    cases token with
    | dot => exact absurd rfl (noDot start stop rest)
    | leftBracket => exact absurd rfl (noBracket start stop rest)
    | _ => rfl

theorem local_path (around : Path → Construct) : Local (path around) := by
  intro ahead fenced
  refine framed_peek_bind fenced ?_
  split
  · next here =>
    exact framed_advance_bind fenced here (by simp) (local_steps around [])
  · next name here =>
    exact framed_advance_bind fenced here (by simp)
      (local_steps around [.field name])
  · next here =>
    exact framed_advance_bind fenced here (by simp)
      (local_steps around [.wildcard])
  · exact local_steps around [] ahead fenced
  · exact (framed_unexpected fenced).within

/-! ### Operands -/

theorem not_boundary_of_literal? {t : Token} {value : Literal} (read : literal? t = some value) :
    ¬ t.IsBoundary := by
  rintro (rfl | rfl | rfl) <;> cases read

theorem local_literal : Local literal := by
  intro ahead fenced
  refine framed_peek_bind fenced ?_
  split
  · next read =>
    exact framed_advance_bind fenced rfl (not_boundary_of_literal? read) (local_pure _)
  · exact framed_unexpected fenced

theorem framed_bound {name : String} (fenced : Fenced ahead)
    (inner : ¬ (nextToken ahead).IsBoundary) : Framed Fenced (operand.bound name) ahead :=
  framed_advance_bind fenced rfl inner ((local_steps _ _).bind fun _ => local_pure _)

theorem local_rooted : Local operand.rooted :=
  (local_path _).bind fun _ => local_pure _

theorem local_operand (declared : List String) : Local (operand declared) := by
  intro ahead fenced
  refine framed_peek_bind fenced ?_
  generalize token : nextToken ahead = t
  have rooted := local_rooted ahead fenced
  split
  · next read =>
    exact framed_advance_bind fenced token (not_boundary_of_literal? read) (local_pure _)
  · exact framed_bound fenced (by simp [token])
  · split
    · exact framed_bound fenced (by simp [token])
    · exact rooted
  · exact rooted
  · exact rooted
  · exact rooted
  · exact (framed_unexpected fenced).within

/-! ### Assertions -/

theorem local_comma (form : Form) : Local (comma form) := by
  intro ahead fenced
  refine framed_peek_bind fenced ?_
  split
  · next here => exact framed_advance fenced (fenced.tail (by simp [here]))
  · exact framed_fail fenced
  · exact framed_unexpected fenced

theorem local_scope {form : Form} {around : List Literal → Construct} {found : List Literal}
    (inner : Local p) : Local (arguments.scope form around found p) :=
  inner.within.within

theorem local_arguments (form : Form) (around : List Literal → Construct) (count : Nat)
    (found : List Literal) : Local (arguments form around count found) := by
  induction count generalizing found with
  | zero => exact local_pure found
  | succ count ih =>
    have argument : Local (do comma form; return (← line, ← literal)) :=
      (local_comma form).bind fun _ ahead fenced =>
        framed_line_bind fenced ((local_literal.bind fun _ => local_pure _) ahead fenced)
    refine (local_scope argument).bind fun read => ?_
    obtain ⟨line, value⟩ := read
    dsimp only
    split
    · exact local_scope fun _ fenced => framed_failOn fenced
    · exact ih _

theorem local_quantifier : Local quantifier := by
  intro ahead fenced
  refine framed_peek_bind fenced ?_
  split
  · next here => exact framed_advance_bind fenced here (by simp) (local_pure _)
  · next here => exact framed_advance_bind fenced here (by simp) (local_pure _)
  · exact framed_pure fenced

theorem local_formName : Local formName := by
  intro ahead fenced
  refine framed_peek_bind fenced ?_
  split
  · next here => exact framed_advance_bind fenced here (by simp) (local_pure _)
  · exact framed_unexpected fenced

theorem local_form (line : Nat) (name : String) (quantifier : Option Quantifier) :
    Local (form line name quantifier) := by
  intro ahead fenced
  unfold form
  split
  · exact framed_failOn fenced
  · exact framed_pure fenced
  · split
    · exact framed_failOn fenced
    · exact framed_pure fenced

theorem local_leftOperand (form : Form) (declared : List String)
    (around : List String → Construct) : Local (leftOperand form declared around) := by
  intro ahead fenced
  have operand : Local (within (around []) (operand declared)) := (local_operand declared).within
  refine framed_line_bind fenced ((operand ahead fenced).bind fun left ahead fenced => ?_)
  split
  · split
    · exact (framed_failOn fenced).within
    · exact framed_pure fenced
  · exact framed_pure fenced

theorem local_rightOperand (form : Form) (declared : List String) :
    Local (rightOperand form declared) := by
  unfold rightOperand
  split
  · exact (local_comma form).bind fun _ => (local_operand declared).bind fun _ => local_pure _
  · exact local_pure none

theorem local_closing (form : Form) : Local (closing form) := by
  intro ahead fenced
  refine framed_peek_bind fenced ?_
  split
  · exact framed_fail fenced
  · exact local_expect (by simp) ahead fenced

/-- The name of a form and the parenthesis behind it. -/
theorem local_opening (line : Nat) (name : String) (quantifier : Option Quantifier) :
    Local (do
      let form ← form line name quantifier
      expect .leftParen .leftParen
      return form) :=
  (local_form line name quantifier).bind fun _ =>
    (local_expect (by simp)).bind fun _ => local_pure _

theorem local_assertion (declared : List String) : Local (assertion declared) := by
  refine local_quantifier.bind fun quantifier ahead fenced => framed_line_bind fenced ?_
  generalize nextLine ahead = line
  revert ahead
  refine local_formName.within.bind fun name => ?_
  refine (local_opening line name quantifier).within.bind fun form => ?_
  refine (local_leftOperand form declared _).bind fun left => ?_
  refine (local_rightOperand form declared).within.bind fun right => ?_
  refine (local_arguments form _ _ []).bind fun arguments => ?_
  exact (local_closing form).within.bind fun _ => local_pure _

/-! ### Trees -/

theorem local_afterEach {separator : Token} (inner : ¬ separator.IsBoundary) (part : Local p)
    (limit : Nat) : Local (afterEach separator p limit) := by
  induction limit with
  | zero => exact local_pure []
  | succ limit ih =>
    intro ahead fenced
    refine framed_peek_bind fenced ?_
    split
    · next here =>
      exact framed_advance_bind fenced here inner
        (part.bind fun _ => ih.bind fun _ => local_pure _)
    · exact framed_pure fenced

/-- There are no more separators than tokens, so a limit beyond those is none. -/
theorem afterEach_limit {separator : Token} (inner : ¬ separator.IsBoundary) (part : Local p)
    {limit other : Nat} (fenced : Fenced ahead) (enough : ahead.length ≤ limit)
    (enough' : ahead.length ≤ other) :
    afterEach separator p limit ahead = afterEach separator p other ahead := by
  induction limit generalizing other ahead with
  | zero =>
    obtain ⟨lexeme, rest, rfl⟩ := fenced.eq_cons
    simp at enough
  | succ limit ih =>
    obtain ⟨lexeme, rest, rfl⟩ := fenced.eq_cons
    obtain ⟨less, rfl⟩ : ∃ less, other = less + 1 := ⟨other - 1, by simp at enough'; omega⟩
    simp only [List.length_cons] at enough enough'
    simp only [afterEach, peek_bind]
    split
    · next here =>
      have later : Fenced rest := fenced.of_cons (by rw [← here] at inner; exact inner)
      rw [advance_bind, advance_bind]
      refine bind_congr rfl fun x mid read => ?_
      obtain ⟨more, within⟩ := (part rest later).ok x mid read
      have shorter := within.length_le
      exact bind_congr (ih more (by omega) (by omega)) fun _ _ _ => rfl
    · rfl

theorem local_chain {separator : Token} {join : List AssertionTree → AssertionTree}
    {part : Parser AssertionTree} (inner : ¬ separator.IsBoundary) (each : Local part) :
    Local (chain separator join part) := by
  refine each.bind fun first ahead fenced => ?_
  have rest : Local (do
      let rest ← afterEach separator part ahead.length
      return if rest.isEmpty then first else join (first :: rest)) :=
    (local_afterEach inner each ahead.length).bind fun _ => local_pure _
  refine (rest ahead fenced).skip (List.suffix_refl _) fun more => ?_
  -- The limit counts the tokens that follow as well, which makes no difference.
  have same : afterEach separator part (ahead ++ more).length (ahead ++ more) =
      afterEach separator part ahead.length (ahead ++ more) := by
    rw [(local_afterEach inner each _ ahead fenced).frame,
      (local_afterEach inner each _ ahead fenced).frame,
      afterEach_limit inner each fenced (by simp) (Nat.le_refl _)]
  rw [get_bind]
  exact bind_congr same fun _ _ _ => rfl

theorem local_disjunction {part : Parser AssertionTree} (each : Local part) :
    Local (disjunction part) :=
  local_chain (by simp) (local_chain (by simp) each)

theorem local_leaf (declared : List String) : Local (leaf declared) := by
  intro ahead fenced
  refine framed_peek_bind fenced ?_
  have assertion := ((local_assertion declared).bind fun a =>
    local_pure (AssertionTree.leaf a)) ahead fenced
  split
  · exact assertion
  · exact assertion
  · exact assertion
  · exact framed_unexpected fenced

theorem local_part (declared : List String) (room : Nat) : Local (part declared room) := by
  induction room with
  | zero =>
    intro ahead fenced
    refine framed_peek_bind fenced ?_
    split
    · exact framed_fail fenced
    · exact framed_fail fenced
    · exact local_leaf declared ahead fenced
  | succ room ih =>
    intro ahead fenced
    refine framed_peek_bind fenced ?_
    split
    · next here =>
      exact (framed_advance_bind fenced here (by simp)
        (ih.bind fun _ => local_pure _)).within
    · next here =>
      refine (framed_advance_bind fenced here (by simp) ?_).within
      exact (local_disjunction ih).bind fun _ =>
        (local_expect (by simp)).bind fun _ => local_pure _
    · exact local_leaf declared ahead fenced

/-! ### Statements -/

/-- A statement passes its semicolon, and it leaves an end of the tokens of any kind. -/
theorem framed_statement (declared : List String) (fenced : Fenced ahead) :
    Framed (fun _ => True) (statement declared) ahead := by
  have tree := local_disjunction (local_part declared maxNesting) ahead fenced
  refine tree.bind fun tree ahead fenced => framed_peek_bind fenced ?_
  split
  · have passes : Framed (fun _ => True) advance ahead := framed_advance fenced trivial
    exact passes.bind fun _ _ _ => framed_pure trivial
  · exact framed_pure trivial
  · have fails : Framed (fun _ => True) (unexpected .statementEnd : Parser Unit) ahead :=
      framed_unexpected fenced
    exact fails.bind fun _ _ _ => framed_pure trivial

theorem local_variableName : Local variableName := by
  intro ahead fenced
  refine framed_peek_bind fenced ?_
  split
  · next here => exact framed_advance_bind fenced here (by simp) (local_pure _)
  · exact framed_unexpected fenced

/-- A declaration after its `let`. -/
def afterLet : Parser Declaration := do
  let name ← within (.declaration {}) variableName
  let around (path : Path) : Construct := .declaration { name := some name, path }
  within (around []) (expect .equals .equalsSign)
  let path ← path around
  within (around path) (expect .semicolon .declarationEnd)
  return ⟨name, path⟩

theorem declaration_cons (lexeme : Lexeme) (ahead : List Lexeme) :
    declaration (lexeme :: ahead) = afterLet ahead := rfl

theorem framed_afterLet (fenced : Fenced ahead) : Framed (fun _ => True) afterLet ahead := by
  refine (local_variableName.within ahead fenced).bind fun name ahead fenced => ?_
  have equals : Local (expect .equals .equalsSign) := local_expect (by simp)
  refine (equals.within ahead fenced).bind fun _ ahead fenced => ?_
  refine (local_path _ ahead fenced).bind fun path ahead fenced => ?_
  have last : Framed (fun _ => True) (expect .semicolon .declarationEnd) ahead :=
    framed_expect fenced fun _ => trivial
  exact last.within.bind fun _ _ _ => framed_pure trivial

end Parser

end Attest
