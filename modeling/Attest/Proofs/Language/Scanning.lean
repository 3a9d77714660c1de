import Attest.Language.Lexer
/-!
# Scanning

Lexing without positions. Characters are scanned one token at a time, and the tokens of a source
are what scanning it to its end gives.
-/

namespace Attest

namespace Lexer

/-! ### Tokens and their texts -/

theorem Body.token_ne_endOfInput (b : Body) : b.token ≠ .endOfInput := by
  unfold Body.token
  split <;> nofun

theorem Numeral.token_ne_endOfInput (n : Numeral) : n.token ≠ .endOfInput := by
  unfold Numeral.token
  dsimp only
  repeat' split
  all_goals nofun

theorem punctuation?_ne_endOfInput {c : Char} : punctuation? c ≠ some .endOfInput := by
  unfold punctuation?
  split <;> nofun

theorem keyword?_ne_endOfInput {word : String} : keyword? word ≠ some .endOfInput := by
  unfold keyword?
  split <;> nofun

theorem tokenAt_ne_endOfInput (c : Char) (rest : List Char) :
    (tokenAt c rest).1 ≠ .endOfInput := by
  unfold tokenAt
  split
  · split <;> nofun
  · split
    · next t found =>
      intro same
      exact punctuation?_ne_endOfInput (found.trans (congrArg some same))
    · split
      · exact Body.token_ne_endOfInput _
      · split
        · exact Numeral.token_ne_endOfInput _
        · split
          · exact Numeral.token_ne_endOfInput _
          · split
            · dsimp only
              cases found : keyword? (String.ofList (name (c :: rest))) with
              | none => nofun
              | some t =>
                intro same
                exact keyword?_ne_endOfInput (found.trans (congrArg some same))
            · nofun

theorem isNameChar_of_isNameStart {c : Char} (h : isNameStart c) : isNameChar c := by
  simp only [isNameStart, isNameChar, Unicode.isAlphanumeric, Bool.or_eq_true] at h ⊢
  exact h.imp_left .inl

theorem tokenAt_text (c : Char) (rest : List Char) : ∃ more, (tokenAt c rest).2 = c :: more := by
  unfold tokenAt
  split
  · split
    · exact ⟨_, rfl⟩
    · exact ⟨_, rfl⟩
  · split
    · exact ⟨_, rfl⟩
    · split
      · exact ⟨_, rfl⟩
      · split
        · next minus =>
          simp only [Bool.and_eq_true, decide_eq_true_eq] at minus
          rw [minus.1]
          exact ⟨_, rfl⟩
        · split
          · next digit => simp [numeral, Numeral.text, digit]
          · split
            · next start =>
              refine ⟨nameFrom true rest, ?_⟩
              simp [name, nameFrom, isNameChar_of_isNameStart start]
            · exact ⟨_, rfl⟩

/-! ### One token at a time -/

/-- The token that the characters begin with, after blanks and comments, and what follows it. -/
def token? (cs : List Char) : Option (Token × List Char) :=
  match cs.drop (trivia false cs).length with
  | [] => none
  | c :: rest => some ((tokenAt c rest).1, (c :: rest).drop (tokenAt c rest).2.length)

theorem ne_endOfInput_of_token? {cs rest : List Char} {t : Token}
    (h : token? cs = some (t, rest)) : t ≠ .endOfInput := by
  unfold token? at h
  split at h
  · cases h
  · cases h
    exact tokenAt_ne_endOfInput _ _

theorem length_lt_of_token? {cs rest : List Char} {t : Token} (h : token? cs = some (t, rest)) :
    rest.length < cs.length := by
  unfold token? at h
  split at h
  · cases h
  · next c after split =>
    cases h
    obtain ⟨more, text⟩ := tokenAt_text c after
    have dropped := congrArg List.length split
    simp only [List.length_drop, List.length_cons] at dropped
    rw [text, List.length_cons, List.length_drop, List.length_cons]
    omega

/-- Scanning the tokens `ts` leads from the characters `cs` to `rest`. -/
inductive Scans : List Char → List Token → List Char → Prop
  | nil (cs : List Char) : Scans cs [] cs
  | cons {cs mid rest : List Char} {t : Token} {ts : List Token}
      (first : token? cs = some (t, mid)) (later : Scans mid ts rest) : Scans cs (t :: ts) rest

namespace Scans

variable {cs mid rest : List Char} {ts us : List Token}

theorem append (first : Scans cs ts mid) (later : Scans mid us rest) :
    Scans cs (ts ++ us) rest := by
  induction first with
  | nil => exact later
  | cons first _ ih => exact .cons first (ih later)

theorem single {t : Token} (h : token? cs = some (t, rest)) : Scans cs [t] rest :=
  .cons h (.nil rest)

theorem length_le (h : Scans cs ts rest) : ts.length + rest.length ≤ cs.length := by
  induction h with
  | nil => simp
  | cons first _ ih =>
    have shorter := length_lt_of_token? first
    simp only [List.length_cons]
    omega

theorem ne_endOfInput (h : Scans cs ts rest) : ∀ t ∈ ts, t ≠ .endOfInput := by
  induction h with
  | nil => simp
  | cons first _ ih => exact List.forall_mem_cons.mpr ⟨ne_endOfInput_of_token? first, ih⟩

/-- Characters can be scanned to their end. -/
theorem exists_to_end (cs : List Char) : ∃ ts rest, Scans cs ts rest ∧ token? rest = none := by
  induction length : cs.length using Nat.strongRecOn generalizing cs with
  | ind n ih =>
    cases found : token? cs with
    | none => exact ⟨[], cs, .nil cs, found⟩
    | some pair =>
      have shorter := length_lt_of_token? found
      obtain ⟨ts, rest, scans, done⟩ := ih pair.2.length (by omega) pair.2 rfl
      exact ⟨pair.1 :: ts, rest, .cons found scans, done⟩

end Scans

end Lexer

open Lexer

/-! ### Scanners -/

namespace Scanner

theorem next_of_none {s : Scanner} (h : token? s.ahead = none) : s.next.1.token = .endOfInput := by
  unfold token? at h
  split at h
  · next done =>
    unfold next skipTrivia skip
    simp only [done]
  · cases h

theorem next_of_some {s : Scanner} {t : Token} {rest : List Char}
    (h : token? s.ahead = some (t, rest)) : s.next.1.token = t ∧ s.next.2.ahead = rest := by
  unfold token? at h
  split at h
  · cases h
  · next c after split =>
    cases h
    unfold next skipTrivia skip
    simp only [split]
    exact ⟨trivial, trivial⟩

theorem tokens_of_scans {s : Scanner} {limit : Nat} {ts : List Token} {rest : List Char}
    (scans : Scans s.ahead ts rest) (done : token? rest = none) (enough : ts.length ≤ limit) :
    (s.tokens limit).map Lexeme.token = ts ++ [.endOfInput] := by
  generalize place : s.ahead = cs at scans
  induction scans generalizing s limit with
  | nil =>
    rw [← place] at done
    have last := next_of_none done
    cases limit <;> simp [tokens, last]
  | cons first _ ih =>
    have positive := Nat.lt_of_lt_of_le (Nat.zero_lt_succ _) enough
    obtain ⟨limit, rfl⟩ := Nat.exists_eq_add_one.mpr positive
    rw [← place] at first
    obtain ⟨here, after⟩ := next_of_some first
    have more := ne_endOfInput_of_token? first
    simp only [tokens, here, more, if_false, List.map_cons, List.cons_append]
    rw [ih done (Nat.le_of_succ_le_succ enough) after]

theorem scans_of_tokens {s : Scanner} {limit : Nat} {ts : List Token}
    (h : (s.tokens limit).map Lexeme.token = ts ++ [.endOfInput]) :
    ∃ rest, Scans s.ahead ts rest ∧ token? rest = none := by
  induction limit generalizing s ts with
  | zero =>
    cases ts with
    | nil =>
      refine ⟨s.ahead, .nil _, ?_⟩
      simp only [tokens, List.map_cons, List.map_nil, List.nil_append, List.cons.injEq] at h
      cases found : token? s.ahead with
      | none => rfl
      | some pair =>
        have more := ne_endOfInput_of_token? found
        exact absurd ((next_of_some found).1.symm.trans h.1) more
    | cons t ts => simp [tokens] at h
  | succ limit ih =>
    cases found : token? s.ahead with
    | none =>
      have last := next_of_none found
      simp only [tokens, last, if_true, List.map_cons, List.map_nil] at h
      cases ts with
      | nil => exact ⟨s.ahead, .nil _, found⟩
      | cons t ts => simp at h
    | some pair =>
      obtain ⟨t, mid⟩ := pair
      obtain ⟨here, after⟩ := next_of_some found
      have more := ne_endOfInput_of_token? found
      simp only [tokens, here, more, if_false, List.map_cons] at h
      cases ts with
      | nil =>
        simp only [List.nil_append, List.cons.injEq] at h
        exact absurd h.1 more
      | cons first later =>
        simp only [List.cons_append, List.cons.injEq] at h
        obtain ⟨rfl, h⟩ := h
        obtain ⟨rest, scans, done⟩ := ih h
        rw [after] at scans
        exact ⟨rest, .cons found scans, done⟩

end Scanner

/-- The tokens of the text, up to the end of input, are `ts`. -/
def ReadsAs (text : String) (ts : List Token) : Prop :=
  (lex text).map Lexeme.token = ts ++ [.endOfInput]

theorem readsAs_iff {text : String} {ts : List Token} :
    ReadsAs text ts ↔ ∃ rest, Scans text.toList ts rest ∧ token? rest = none := by
  constructor
  · exact Scanner.scans_of_tokens
  · rintro ⟨rest, scans, done⟩
    have bound := scans.length_le
    refine Scanner.tokens_of_scans scans done ?_
    rw [String.length_toList] at bound
    omega

/-- The end of input comes last and only there. -/
theorem lex_eq_append (source : String) :
    ∃ front stop, lex source = front ++ [stop] ∧ stop.token = .endOfInput ∧
      ∀ lexeme ∈ front, lexeme.token ≠ .endOfInput := by
  obtain ⟨ts, rest, scans, done⟩ := Scans.exists_to_end source.toList
  have tokens : (lex source).map Lexeme.token = ts ++ [.endOfInput] :=
    readsAs_iff.mpr ⟨rest, scans, done⟩
  obtain ⟨front, last, split, fronts, lasts⟩ := List.map_eq_append_iff.mp tokens
  obtain ⟨stop, rfl, stops⟩ := List.map_eq_singleton_iff.mp lasts
  refine ⟨front, stop, split, stops, fun lexeme member => ?_⟩
  exact scans.ne_endOfInput _ (fronts ▸ List.mem_map_of_mem member)

end Attest
