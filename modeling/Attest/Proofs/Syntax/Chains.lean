import Attest.Proofs.Syntax.Parsers
import Attest.Proofs.Syntax.Rules
/-!
# Chains of parts

A chain is one or more parts with a separator between them. What holds of a parser of parts holds
of the parser of their chains.
-/

namespace Attest

namespace Rules

/-- `part (separator part)*` -/
inductive Separated (separator : Token) (rule : List Token → AssertionTree → Prop) :
    List Token → List AssertionTree → Prop
  | last {ts : List Token} {tree : AssertionTree} (part : rule ts tree) :
      Separated separator rule ts [tree]
  | more {ts us : List Token} {tree : AssertionTree} {trees : List AssertionTree}
      (part : rule ts tree) (rest : Separated separator rule us trees) :
      Separated separator rule (ts ++ separator :: us) (tree :: trees)

/-- A chain as one tree. -/
def Chain (separator : Token) (join : List AssertionTree → AssertionTree)
    (rule : List Token → AssertionTree → Prop) (ts : List Token) (tree : AssertionTree) : Prop :=
  ∃ trees, Separated separator rule ts trees ∧ tree = joined join trees

theorem Separated.length_le {separator : Token} {rule : List Token → AssertionTree → Prop}
    {ts : List Token} {trees : List AssertionTree} (h : Separated separator rule ts trees) :
    trees.length ≤ ts.length + 1 := by
  induction h with
  | last => simp
  | more _ _ ih =>
    simp only [List.length_cons, List.length_append]
    omega

variable {declared : List String} {room : Nat} {ts : List Token} {trees : List AssertionTree}

theorem conjuncts_of_separated (h : Separated .andWord (Part declared room) ts trees) :
    Conjuncts declared room ts trees := by
  induction h with
  | last part => exact .last part
  | more part _ ih => exact .more part ih

theorem Conjuncts.separated {ts : List Token} {trees : List AssertionTree} :
    Conjuncts declared room ts trees → Separated .andWord (Part declared room) ts trees
  | .last part => .last part
  | .more part rest => .more part rest.separated

theorem disjuncts_of_separated
    (h : Separated .orWord (Chain .andWord .and (Part declared room)) ts trees) :
    Disjuncts declared room ts trees := by
  induction h with
  | last part =>
    obtain ⟨parts, conjunction, rfl⟩ := part
    exact .last (conjuncts_of_separated conjunction)
  | more part _ ih =>
    obtain ⟨parts, conjunction, rfl⟩ := part
    exact .more (conjuncts_of_separated conjunction) ih

theorem Disjuncts.separated {ts : List Token} {trees : List AssertionTree} :
    Disjuncts declared room ts trees →
      Separated .orWord (Chain .andWord .and (Part declared room)) ts trees
  | .last conjunction => .last ⟨_, conjunction.separated, rfl⟩
  | .more conjunction rest => .more ⟨_, conjunction.separated, rfl⟩ rest.separated

end Rules

open Rules

namespace Parser

variable {α : Type} {ahead rest : List Lexeme} {separator : Token}
  {join : List AssertionTree → AssertionTree} {part : Parser AssertionTree}
  {rule : List Token → AssertionTree → Prop}

/-- Where the parser succeeds, the rule derives its result from what it read. -/
def Sound (p : Parser α) (rule : List Token → α → Prop) : Prop :=
  ∀ ⦃ahead rest value⦄, p ahead = .ok (value, rest) → ∃ ts, Spans ahead ts rest ∧ rule ts value

/-- The parser reads what the rule derives, if the next token may follow it. -/
def Complete (p : Parser α) (rule : List Token → α → Prop) (mayFollow : Token → Prop) : Prop :=
  ∀ ⦃ahead ts rest value⦄, Spans ahead ts rest → rule ts value → mayFollow (nextToken rest) →
    p ahead = .ok (value, rest)

theorem afterEach_sound (more : separator ≠ .endOfInput) (sound : Sound part rule) {limit : Nat}
    {first : AssertionTree} {ts : List Token} {trees : List AssertionTree} (derived : rule ts first)
    (h : afterEach separator part limit ahead = .ok (trees, rest)) :
    ∃ us, Spans ahead us rest ∧ Separated separator rule (ts ++ us) (first :: trees) := by
  induction limit generalizing ahead ts first trees with
  | zero =>
    obtain ⟨rfl, rfl⟩ := pure_eq_ok.mp h
    exact ⟨[], .refl _, by simpa using Separated.last derived⟩
  | succ limit ih =>
    simp only [afterEach, peek_bind] at h
    split at h
    · next here =>
      rw [advance_bind] at h
      obtain ⟨second, _, read, h⟩ := bind_eq_ok.mp h
      obtain ⟨others, _, read', h⟩ := bind_eq_ok.mp h
      obtain ⟨rfl, rfl⟩ := pure_eq_ok.mp h
      obtain ⟨us, spans, derived'⟩ := sound read
      obtain ⟨vs, spans', separated⟩ := ih derived' read'
      exact ⟨_, .next here more (spans.append spans'), .more derived separated⟩
    · obtain ⟨rfl, rfl⟩ := pure_eq_ok.mp h
      exact ⟨[], .refl _, by simpa using Separated.last derived⟩

theorem chain_sound (more : separator ≠ .endOfInput) (sound : Sound part rule) :
    Sound (chain separator join part) (Chain separator join rule) := by
  intro ahead rest tree h
  obtain ⟨first, mid, read, h⟩ := bind_eq_ok.mp h
  rw [get_bind] at h
  obtain ⟨others, _, read', h⟩ := bind_eq_ok.mp h
  obtain ⟨rfl, rfl⟩ := pure_eq_ok.mp h
  obtain ⟨ts, spans, derived⟩ := sound read
  obtain ⟨us, spans', separated⟩ := afterEach_sound more sound derived read'
  refine ⟨_, spans.append spans', _, separated, ?_⟩
  cases others <;> rfl

/-- The limit of a repetition is no limit if it reaches the number of its parts. -/
theorem afterEach_complete {mayFollow : Token → Prop} (complete : Complete part rule mayFollow)
    (follows : mayFollow separator) {ts : List Token} {trees : List AssertionTree}
    (derived : Separated separator rule ts trees) (spans : Spans ahead ts rest)
    (ends : nextToken rest ≠ separator) (next : mayFollow (nextToken rest)) :
    ∃ first others mid, trees = first :: others ∧ part ahead = .ok (first, mid) ∧
      others.length ≤ mid.length ∧ ∀ limit, others.length ≤ limit →
        afterEach separator part limit mid = .ok (others, rest) := by
  induction derived generalizing ahead with
  | last derived =>
    refine ⟨_, [], rest, rfl, complete spans derived next, Nat.zero_le _, fun limit _ => ?_⟩
    cases limit with
    | zero => rfl
    | succ limit =>
      simp only [afterEach, peek_bind]
      rw [if_neg ends]
      rfl
  | @more _ _ _ others derived separated ih =>
    obtain ⟨mid, before, after⟩ := Spans.append_iff.mp spans
    have here := after.nextToken
    -- Each part after the first has a separator, so there are no more of them than tokens.
    have bound : others.length ≤ mid.length := by
      rw [after.length, List.length_cons]
      exact Nat.le_trans separated.length_le (Nat.le_add_right _ _)
    obtain ⟨second, later, mid', rfl, read, _, again⟩ := ih after.tail
    refine ⟨_, _, mid, rfl, complete before derived (by rwa [here]), bound, fun limit enough => ?_⟩
    cases limit with
    | zero => cases enough
    | succ limit =>
      simp only [afterEach, peek_bind]
      rw [if_pos here, advance_bind]
      refine bind_eq_ok.mpr ⟨_, _, read, bind_eq_ok.mpr ⟨_, _, again limit ?_, rfl⟩⟩
      simpa using enough

theorem chain_complete {mayFollow : Token → Prop} (complete : Complete part rule mayFollow)
    (follows : mayFollow separator) :
    Complete (chain separator join part) (Chain separator join rule)
      (fun t => t ≠ separator ∧ mayFollow t) := by
  rintro ahead ts rest _ spans ⟨trees, separated, rfl⟩ ⟨ends, next⟩
  obtain ⟨first, others, mid, rfl, read, enough, again⟩ :=
    afterEach_complete complete follows separated spans ends next
  refine bind_eq_ok.mpr ⟨_, _, read, ?_⟩
  rw [get_bind]
  refine bind_eq_ok.mpr ⟨_, _, again mid.length enough, ?_⟩
  cases others <;> rfl

end Parser

end Attest
