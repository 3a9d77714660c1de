import Attest.Proofs.Language.Texts
/-!
# Places of tokens

The tokens of a source stand one behind the other in its text, with nothing but blanks and comments
between them, and each of them tells the line and the column where it begins.
-/

namespace Attest

/-! ### Positions -/

namespace Position

/-- The position behind a text: its line is one more than the line ends in the text, its column one
more than the characters after the last of these. -/
def behind (cs : List Char) : Position :=
  ⟨cs.length, 1 + cs.count '\n', 1 + (cs.reverse.takeWhile (· ≠ '\n')).length⟩

theorem next_behind (cs : List Char) (c : Char) : (behind cs).next c = behind (cs ++ [c]) := by
  unfold next behind
  by_cases ends : c = '\n'
  · subst ends
    simp [Nat.add_assoc]
  · simp [ends, Nat.add_comm]

theorem after_behind (cs text : List Char) : (behind cs).after text = behind (cs ++ text) := by
  induction text generalizing cs with
  | nil => rw [after_nil, List.append_nil]
  | cons c text ih => rw [after_cons, next_behind, ih, List.append_assoc, List.singleton_append]

end Position

open Lexer Position

/-! ### Lexemes in a text -/

/-- The lexemes stand in the characters ahead, of which others come before, one behind the other. -/
inductive Placed : List Char → List Char → List Lexeme → Prop
  | stop {before gap : List Char} (passed : EndTrivia gap) :
      Placed before gap [⟨.endOfInput, behind (before ++ gap), behind (before ++ gap)⟩]
  | next {before gap text rest : List Char} {t : Token} {lexemes : List Lexeme}
      (passed : Trivia gap) (covers : text ≠ []) (more : t ≠ .endOfInput)
      (later : Placed (before ++ gap ++ text) rest lexemes) :
      Placed before (gap ++ text ++ rest)
        (⟨t, behind (before ++ gap), behind (before ++ gap ++ text)⟩ :: lexemes)

/-- Each lexeme but the last takes one character at least. -/
theorem Placed.length_le {before ahead : List Char} {lexemes : List Lexeme}
    (placed : Placed before ahead lexemes) : lexemes.length ≤ ahead.length + 1 := by
  induction placed with
  | stop => simp
  | next _ covers _ _ ih =>
    have positive := List.length_pos_iff.mpr covers
    simp only [List.length_cons, List.length_append]
    omega

theorem Placed.ne_nil {before ahead : List Char} {lexemes : List Lexeme}
    (placed : Placed before ahead lexemes) : lexemes ≠ [] := by
  cases placed with
  | stop => exact List.cons_ne_nil _ _
  | next => exact List.cons_ne_nil _ _

theorem Placed.token_of_last {before ahead : List Char} {lexemes : List Lexeme}
    (placed : Placed before ahead lexemes) :
    ∀ lexeme ∈ lexemes.getLast?, lexeme.token = .endOfInput := by
  induction placed with
  | stop =>
    intro lexeme last
    cases last
    rfl
  | next _ _ _ later ih =>
    obtain ⟨first, rest, rfl⟩ := List.exists_cons_of_ne_nil later.ne_nil
    rw [List.getLast?_cons_cons]
    exact ih

/-- The line of a lexeme is between those of where the characters begin and end. -/
theorem Placed.line_bounds {before ahead : List Char} {lexemes : List Lexeme}
    (placed : Placed before ahead lexemes) :
    ∀ lexeme ∈ lexemes, (behind before).line ≤ lexeme.start.line ∧
      lexeme.start.line ≤ (behind (before ++ ahead)).line := by
  induction placed with
  | stop =>
    intro lexeme member
    obtain rfl := List.mem_singleton.mp member
    simp [behind]
  | next _ _ _ _ ih =>
    intro lexeme member
    rcases List.mem_cons.mp member with rfl | later
    · simp only [behind, List.count_append]
      omega
    · have bounds := ih lexeme later
      simp only [behind, List.count_append] at bounds ⊢
      omega

theorem Placed.ordered {before ahead : List Char} {lexemes : List Lexeme}
    (placed : Placed before ahead lexemes) :
    lexemes.Pairwise fun a b => a.start.line ≤ b.start.line := by
  induction placed with
  | stop => exact List.pairwise_singleton _ _
  | next _ _ _ later ih =>
    refine List.pairwise_cons.mpr ⟨fun lexeme member => ?_, ih⟩
    have bounds := (later.line_bounds lexeme member).1
    simp only [behind, List.count_append] at bounds ⊢
    omega

namespace Scanner

variable {s : Scanner} {before rest : List Char} {t : Token} {limit : Nat}

/-- The scanner after some tokens. -/
def onward (s : Scanner) : Nat → Scanner
  | 0 => s
  | n + 1 => s.next.2.onward n

theorem next_at_end (place : s.position = behind before) (done : token? s.ahead = none) :
    let stop := behind (before ++ s.ahead)
    EndTrivia s.ahead ∧ s.next = (⟨.endOfInput, stop, stop⟩, ⟨stop, []⟩) := by
  rcases trivia_split s.ahead with ⟨whole, ends⟩ | ⟨c, after, split, _⟩
  · refine ⟨ends, ?_⟩
    unfold next skipTrivia skip
    rw [whole, List.drop_length, place, after_behind]
  · generalize gap : trivia false s.ahead = passed at split
    rw [token?, gap, split, List.drop_left] at done
    cases done

theorem next_of_parts (place : s.position = behind before) {gap more after : List Char} {c : Char}
    (split : s.ahead = gap ++ c :: after) (passed : Trivia gap) (solid : Unicode.isBlank c = false)
    (stops : startsComment (c :: after) = false) (whole : c :: after = c :: more ++ rest)
    (reads : tokenAt c after = (t, c :: more)) :
    s.next = (⟨t, behind (before ++ gap), behind (before ++ gap ++ c :: more)⟩,
      ⟨behind (before ++ gap ++ c :: more), rest⟩) := by
  have nothing : trivia false (c :: after) = [] := by
    simp [trivia, solid, stops]
  have skipped : trivia false s.ahead = gap := by
    rw [split, passed.trivia_append, nothing, List.append_nil]
  have left : s.ahead.drop gap.length = c :: after := by
    rw [split, List.drop_left]
  unfold next skipTrivia skip
  simp only [skipped, left, reads, place, after_behind]
  rw [whole, List.drop_left]

theorem next_of_token (place : s.position = behind before)
    (found : token? s.ahead = some (t, rest)) :
    ∃ gap text, s.ahead = gap ++ text ++ rest ∧ Trivia gap ∧ text ≠ [] ∧
      s.next = (⟨t, behind (before ++ gap), behind (before ++ gap ++ text)⟩,
        ⟨behind (before ++ gap ++ text), rest⟩) := by
  obtain ⟨gap, c, more, after, split, passed, solid, stops, whole, reads⟩ := token?_eq_some found
  refine ⟨gap, c :: more, ?_, passed, List.cons_ne_nil c more, ?_⟩
  · rw [split, whole, List.append_assoc]
  · exact next_of_parts place split passed solid stops whole reads

theorem placed_tokens (place : s.position = behind before) (enough : s.ahead.length ≤ limit) :
    Placed before s.ahead (s.tokens limit) := by
  induction limit generalizing s before with
  | zero =>
    have empty : s.ahead = [] := List.length_eq_zero_iff.mp (Nat.le_zero.mp enough)
    have done : token? s.ahead = Option.none := by rw [empty]; rfl
    obtain ⟨ends, same⟩ := next_at_end place done
    rw [tokens, same]
    exact .stop ends
  | succ limit ih =>
    cases found : token? s.ahead with
    | none =>
      obtain ⟨ends, same⟩ := next_at_end place found
      rw [tokens, same]
      exact .stop ends
    | some pair =>
      obtain ⟨t, rest⟩ := pair
      have more := ne_endOfInput_of_token? found
      have shorter := length_lt_of_token? found
      obtain ⟨gap, text, split, passed, covers, same⟩ := next_of_token place found
      let after : Scanner := ⟨behind (before ++ gap ++ text), rest⟩
      have later : Placed (before ++ gap ++ text) rest (after.tokens limit) :=
        ih (s := after) rfl (Nat.le_of_lt_succ (Nat.lt_of_lt_of_le shorter enough))
      rw [tokens, same]
      simp only [more, if_false]
      rw [split]
      exact .next passed covers more later

theorem onward_of_nil (place : Position) (n : Nat) :
    (onward ⟨place, []⟩ n).next.1 = ⟨.endOfInput, place, place⟩ := by
  induction n with
  | zero => rfl
  | succ n ih => exact ih

/-- The tokens that come one by one are those of the list, then the end of input. -/
theorem next_onward (place : s.position = behind before) (enough : s.ahead.length ≤ limit)
    (n : Nat) :
    (s.onward n).next.1 = (s.tokens limit).getD n
      ⟨.endOfInput, behind (before ++ s.ahead), behind (before ++ s.ahead)⟩ := by
  induction n generalizing s before limit with
  | zero =>
    cases limit with
    | zero => rfl
    | succ limit =>
      rw [tokens]
      dsimp only
      split <;> rfl
  | succ n ih =>
    cases found : token? s.ahead with
    | none =>
      obtain ⟨_, same⟩ := next_at_end place found
      have one : s.tokens limit = [s.next.1] := by
        cases limit with
        | zero => rfl
        | succ limit => simp [tokens, same]
      rw [one, onward, same]
      exact onward_of_nil _ n
    | some pair =>
      obtain ⟨t, rest⟩ := pair
      have more := ne_endOfInput_of_token? found
      have shorter := length_lt_of_token? found
      obtain ⟨less, rfl⟩ : ∃ less, limit = less + 1 := ⟨limit - 1, by omega⟩
      obtain ⟨gap, text, split, passed, covers, same⟩ := next_of_token place found
      let after : Scanner := ⟨behind (before ++ gap ++ text), rest⟩
      have later := ih (s := after) rfl (Nat.le_of_lt_succ (Nat.lt_of_lt_of_le shorter enough))
      have whole : before ++ s.ahead = before ++ gap ++ text ++ after.ahead := by
        rw [split]
        simp only [List.append_assoc, after]
      rw [onward, tokens, same, whole]
      simp only [more, if_false, List.getD_cons_succ]
      exact later

end Scanner

/-- Whatever a source holds, its lexemes cover it in order: between two of them there are blanks and
comments only, and each begins at the position behind the text before it. There is one more lexeme
than characters at most, and the end of input comes ever again. -/
theorem lex_placed (source : String) :
    Placed [] source.toList (lex source) ∧ (lex source).length ≤ source.length + 1 ∧
      ∀ n, ((Scanner.ofSource source).onward n).next.1 =
        (lex source).getD n
          ⟨.endOfInput, behind source.toList, behind source.toList⟩ := by
  have start : (Scanner.ofSource source).position = behind [] := rfl
  have enough : (Scanner.ofSource source).ahead.length ≤ source.length := by
    rw [← String.length_toList]
    exact Nat.le_refl _
  have placed : Placed [] source.toList (lex source) := Scanner.placed_tokens start enough
  refine ⟨placed, ?_, ?_⟩
  · rw [← String.length_toList]
    exact placed.length_le
  · intro n
    exact Scanner.next_onward start enough n

/-- A string runs over a line end, and what follows it stands on the next line. -/
example : (lex "a \"\n\" # b\n c").map (fun l => (l.start.line, l.start.column)) =
    [(1, 1), (1, 3), (3, 2), (3, 3)] := by decide +kernel

end Attest
