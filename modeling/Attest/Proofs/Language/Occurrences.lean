import Attest.Proofs.Language.Placement
/-!
# Lexemes where they stand

A lexeme of a source is the token to which scanning comes at its place, or the end of the source.
-/

namespace Attest

open Lexer Position Scanner

/-- Scanning the characters comes to the lexeme: behind some of them and a gap it is read from what
is ahead there, or only a gap is left of them. -/
inductive Occurs (cs : List Char) (l : Lexeme) : Prop
  | token {us : List Token} {front gap more after rest : List Char} {c : Char}
      (scans : Scans cs us (gap ++ c :: after)) (split : cs = front ++ (gap ++ c :: after))
      (passed : Trivia gap) (reads : tokenAt c after = (l.token, c :: more))
      (found : token? (gap ++ c :: after) = some (l.token, rest))
      (whole : c :: after = c :: more ++ rest) (start : l.start.offset = (front ++ gap).length)
      (stop : l.stop.offset = (front ++ gap ++ c :: more).length) : Occurs cs l
  | stop {us : List Token} {front gap : List Char} (scans : Scans cs us gap)
      (split : cs = front ++ gap) (ends : EndTrivia gap) (token : l.token = .endOfInput)
      (start : l.start.offset = cs.length) (stop : l.stop.offset = cs.length) : Occurs cs l

variable {s : Scanner} {cs front : List Char} {us : List Token} {limit : Nat} {l : Lexeme}

theorem Scanner.occurs_at_end (scans : Scans cs us s.ahead) (split : cs = front ++ s.ahead)
    (place : s.position = behind front) (done : token? s.ahead = none) : Occurs cs s.next.1 := by
  obtain ⟨ends, same⟩ := next_at_end place done
  rw [same]
  exact .stop scans split ends rfl (by rw [split]; rfl) (by rw [split]; rfl)

theorem Scanner.occurs_of_mem (scans : Scans cs us s.ahead) (split : cs = front ++ s.ahead)
    (place : s.position = behind front) (enough : s.ahead.length ≤ limit)
    (member : l ∈ s.tokens limit) : Occurs cs l := by
  induction limit generalizing s front us with
  | zero =>
    have empty : s.ahead = [] := List.length_eq_zero_iff.mp (Nat.le_zero.mp enough)
    rw [List.mem_singleton.mp member]
    exact occurs_at_end scans split place (by rw [empty]; rfl)
  | succ limit ih =>
    cases found : token? s.ahead with
    | none =>
      have ended : s.next.1.token = .endOfInput := next_of_none found
      simp only [tokens, ended, if_true, List.mem_singleton] at member
      rw [member]
      exact occurs_at_end scans split place found
    | some pair =>
      obtain ⟨t, rest⟩ := pair
      obtain ⟨gap, c, more, after, parts, passed, solid, plain, whole, reads⟩ :=
        token?_eq_some found
      have goes := ne_endOfInput_of_token? found
      have shorter := length_lt_of_token? found
      have same := next_of_parts place parts passed solid plain whole reads
      rw [tokens, same] at member
      simp only [goes, if_false, List.mem_cons] at member
      rcases member with rfl | later
      · rw [parts] at scans split found
        exact .token scans split passed reads found whole rfl rfl
      · have onward : Scans cs (us ++ [t]) rest := scans.append (.single found)
        have split' : cs = front ++ gap ++ c :: more ++ rest := by
          rw [split, parts, whole]
          simp only [List.append_assoc]
        let after : Scanner := ⟨behind (front ++ gap ++ c :: more), rest⟩
        exact ih (s := after) onward split' rfl
          (Nat.le_of_lt_succ (Nat.lt_of_lt_of_le shorter enough)) later

/-- Scanning a source comes to each of its lexemes. -/
theorem occurs_of_mem_lex {source : String} (member : l ∈ lex source) :
    Occurs source.toList l := by
  have start : (Scanner.ofSource source).position = behind [] := rfl
  have enough : (Scanner.ofSource source).ahead.length ≤ source.length := by
    rw [← String.length_toList]
    exact Nat.le_refl _
  have split : source.toList = [] ++ (Scanner.ofSource source).ahead := rfl
  exact Scanner.occurs_of_mem (.nil _) split start enough member

end Attest
