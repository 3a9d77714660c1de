import Attest.Syntax.Grammar
/-!
# Laws of parsers

What it takes for a parser to succeed. Between the place where a parser begins and the place where
it ends stand the tokens that it read.
-/

namespace Attest

/-! ### The tokens between two places -/

@[simp] theorem nextToken_cons (lexeme : Lexeme) (ahead : List Lexeme) :
    nextToken (lexeme :: ahead) = lexeme.token := rfl

theorem eq_cons_of_nextToken {ahead : List Lexeme} {t : Token} (here : nextToken ahead = t)
    (more : t ≠ .endOfInput) : ∃ start stop rest, ahead = ⟨t, start, stop⟩ :: rest := by
  cases ahead with
  | nil => exact absurd here.symm more
  | cons lexeme rest => exact ⟨lexeme.start, lexeme.stop, rest, by rw [← here]; rfl⟩

/-- The tokens `ts` stand between the places `ahead` and `rest` of a source, and none of them is the
end of input. -/
def Spans : List Lexeme → List Token → List Lexeme → Prop
  | ahead, [], rest => ahead = rest
  | [], _ :: _, _ => False
  | lexeme :: ahead, t :: ts, rest => lexeme.token = t ∧ t ≠ .endOfInput ∧ Spans ahead ts rest

namespace Spans

@[simp] theorem nil_iff {ahead rest : List Lexeme} : Spans ahead [] rest ↔ ahead = rest := by
  cases ahead <;> rfl

theorem refl (ahead : List Lexeme) : Spans ahead [] ahead := nil_iff.mpr rfl

theorem cons_iff {ahead rest : List Lexeme} {t : Token} {ts : List Token} :
    Spans ahead (t :: ts) rest ↔
      t ≠ .endOfInput ∧ ∃ start stop mid, ahead = ⟨t, start, stop⟩ :: mid ∧ Spans mid ts rest := by
  cases ahead with
  | nil => simp [Spans]
  | cons lexeme ahead =>
    constructor
    · rintro ⟨rfl, more, tail⟩
      exact ⟨more, lexeme.start, lexeme.stop, ahead, rfl, tail⟩
    · rintro ⟨more, start, stop, mid, same, tail⟩
      obtain ⟨rfl, rfl⟩ := List.cons.inj same
      exact ⟨rfl, more, tail⟩

theorem append_iff {ahead rest : List Lexeme} {ts us : List Token} :
    Spans ahead (ts ++ us) rest ↔ ∃ mid, Spans ahead ts mid ∧ Spans mid us rest := by
  induction ts generalizing ahead with
  | nil => simp
  | cons t ts ih =>
    simp only [List.cons_append, cons_iff, ih]
    constructor
    · rintro ⟨more, start, stop, next, same, mid, first, second⟩
      exact ⟨mid, ⟨more, start, stop, next, same, first⟩, second⟩
    · rintro ⟨mid, ⟨more, start, stop, next, same, first⟩, second⟩
      exact ⟨more, start, stop, next, same, mid, first, second⟩

theorem append {ahead mid rest : List Lexeme} {ts us : List Token} (first : Spans ahead ts mid)
    (second : Spans mid us rest) : Spans ahead (ts ++ us) rest :=
  append_iff.mpr ⟨mid, first, second⟩

theorem length {ahead rest : List Lexeme} {ts : List Token} (h : Spans ahead ts rest) :
    ahead.length = ts.length + rest.length := by
  induction ts generalizing ahead with
  | nil => rw [nil_iff.mp h, List.length_nil, Nat.zero_add]
  | cons t ts ih =>
    obtain ⟨_, start, stop, mid, rfl, tail⟩ := cons_iff.mp h
    rw [List.length_cons, List.length_cons, ih tail]
    omega

theorem nextToken {ahead rest : List Lexeme} {t : Token} {ts : List Token}
    (h : Spans ahead (t :: ts) rest) : nextToken ahead = t := by
  obtain ⟨_, start, stop, mid, rfl, _⟩ := cons_iff.mp h
  rfl

theorem nextToken_of_head? {ahead rest : List Lexeme} {t : Token} {ts : List Token}
    (h : Spans ahead ts rest) (first : ts.head? = some t) : Attest.nextToken ahead = t := by
  cases ts with
  | nil => cases first
  | cons u ts =>
    cases first
    exact h.nextToken

theorem tail {ahead rest : List Lexeme} {t : Token} {ts : List Token}
    (h : Spans ahead (t :: ts) rest) : Spans ahead.tail ts rest := by
  obtain ⟨_, start, stop, mid, rfl, tail⟩ := cons_iff.mp h
  exact tail

theorem next {ahead rest : List Lexeme} {t : Token} {ts : List Token}
    (here : Attest.nextToken ahead = t) (more : t ≠ .endOfInput) (tail : Spans ahead.tail ts rest) :
    Spans ahead (t :: ts) rest := by
  obtain ⟨start, stop, mid, rfl⟩ := eq_cons_of_nextToken here more
  exact ⟨rfl, more, tail⟩

theorem one {ahead : List Lexeme} {t : Token} (here : Attest.nextToken ahead = t)
    (more : t ≠ .endOfInput) : Spans ahead [t] ahead.tail :=
  .next here more (.refl _)

end Spans

/-! ### Success of parsers -/

namespace Parser

variable {α β : Type} {ahead rest : List Lexeme}

theorem bind_eq_ok {p : Parser α} {f : α → Parser β} {y : β} :
    (p >>= f) ahead = .ok (y, rest) ↔
      ∃ x mid, p ahead = .ok (x, mid) ∧ f x mid = .ok (y, rest) := by
  simp only [bind, StateT.bind, Except.bind]
  cases p ahead with
  | error failure => simp
  | ok result =>
    obtain ⟨x, mid⟩ := result
    constructor
    · intro h
      exact ⟨x, mid, rfl, h⟩
    · rintro ⟨_, _, same, h⟩
      cases same
      exact h

@[simp] theorem pure_eq_ok {x y : α} :
    (pure x : Parser α) ahead = .ok (y, rest) ↔ x = y ∧ ahead = rest := by
  show (.ok (x, ahead) : Except Failure _) = .ok (y, rest) ↔ _
  simp

theorem peek_bind {f : Token → Parser α} : (peek >>= f) ahead = f (nextToken ahead) ahead := rfl

theorem line_bind {f : Nat → Parser α} : (line >>= f) ahead = f (nextLine ahead) ahead := rfl

theorem get_bind {f : List Lexeme → Parser α} : (get >>= f) ahead = f ahead ahead := rfl

theorem advance_bind {f : Unit → Parser α} : (advance >>= f) ahead = f () ahead.tail := rfl

@[simp] theorem advance_eq_ok {u : Unit} :
    advance ahead = .ok (u, rest) ↔ ahead.tail = rest := by
  change Except.ok ((), ahead.tail) = .ok (u, rest) ↔ _
  simp

@[simp] theorem within_eq_ok {construct : Construct} {p : Parser α} {x : α} :
    within construct p ahead = .ok (x, rest) ↔ p ahead = .ok (x, rest) := by
  unfold within
  cases p ahead <;> simp

@[simp] theorem failOn_ne_ok {n : Nat} {fault : SyntaxFault} {x : α} :
    ¬ (failOn n fault : Parser α) ahead = .ok (x, rest) := by
  simp [failOn]

@[simp] theorem fail_ne_ok {fault : SyntaxFault} {x : α} :
    ¬ (fail fault : Parser α) ahead = .ok (x, rest) := by
  rw [fail, line_bind]
  exact failOn_ne_ok

@[simp] theorem unexpected_ne_ok {expected : Expected} {x : α} :
    ¬ (unexpected expected : Parser α) ahead = .ok (x, rest) := by
  rw [unexpected, peek_bind]
  exact fail_ne_ok

@[simp] theorem expect_eq_ok {t : Token} {expected : Expected} {u : Unit} :
    expect t expected ahead = .ok (u, rest) ↔ nextToken ahead = t ∧ ahead.tail = rest := by
  rw [expect, peek_bind]
  split
  · next same => simp [same]
  · next different => simp [different]

end Parser

end Attest
