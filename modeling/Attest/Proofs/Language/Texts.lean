import Attest.Proofs.Language.Numerals
/-!
# Texts of tokens

What the lexer passes over is there to be passed: blanks and comments, then the text of a token,
then the characters that it has not looked at yet.
-/

namespace Attest

namespace Lexer

/-! ### Between tokens -/

/-- The signs that begin a comment. -/
def commentMarks : List (List Char) := [['#'], ['/', '/']]

/-- Blanks, and comments with the ends of their lines. -/
inductive Trivia : List Char → Prop
  | nil : Trivia []
  | blank {c : Char} {cs : List Char} (blank : Unicode.isBlank c) (rest : Trivia cs) :
      Trivia (c :: cs)
  | comment {mark line cs : List Char} (marked : mark ∈ commentMarks) (inside : '\n' ∉ line)
      (rest : Trivia cs) : Trivia (mark ++ line ++ '\n' :: cs)

/-- Trivia after which the input ends. The last comment may go without the end of its line. -/
inductive EndTrivia : List Char → Prop
  | closed {cs : List Char} (closed : Trivia cs) : EndTrivia cs
  | comment {cs mark line : List Char} (before : Trivia cs) (marked : mark ∈ commentMarks)
      (inside : '\n' ∉ line) : EndTrivia (cs ++ (mark ++ line))

theorem startsComment_iff {cs : List Char} :
    startsComment cs ↔ ∃ mark ∈ commentMarks, ∃ rest, cs = mark ++ rest := by
  constructor
  · intro starts
    unfold startsComment at starts
    split at starts
    · exact ⟨['#'], by decide, _, rfl⟩
    · exact ⟨['/', '/'], by decide, _, rfl⟩
    · cases starts
  · rintro ⟨mark, marked, rest, rfl⟩
    simp only [commentMarks, List.mem_cons, List.not_mem_nil, or_false] at marked
    rcases marked with rfl | rfl
    · rfl
    · rfl

theorem not_isBlank_of_mark {mark : List Char} (marked : mark ∈ commentMarks) :
    ∃ c more, mark = c :: more ∧ Unicode.isBlank c = false ∧ '\n' ∉ more := by
  simp only [commentMarks, List.mem_cons, List.not_mem_nil, or_false] at marked
  rcases marked with rfl | rfl
  · exact ⟨'#', [], rfl, by decide, by decide⟩
  · exact ⟨'/', ['/'], rfl, by decide, by decide⟩

/-- Within a comment nothing but a line end counts. -/
theorem trivia_line {line : List Char} (inside : '\n' ∉ line) (cs : List Char) :
    trivia true (line ++ cs) = line ++ trivia true cs := by
  induction line with
  | nil => rfl
  | cons c line ih =>
    rw [List.mem_cons, not_or] at inside
    have other : c ≠ '\n' := fun same => inside.1 same.symm
    rw [List.cons_append, trivia, if_pos rfl, if_neg other, ih inside.2, List.cons_append]

theorem trivia_mark {mark : List Char} (marked : mark ∈ commentMarks) (cs : List Char) :
    trivia false (mark ++ cs) = mark ++ trivia true cs := by
  have starts : startsComment (mark ++ cs) := startsComment_iff.mpr ⟨mark, marked, cs, rfl⟩
  obtain ⟨c, more, rfl, solid, inside⟩ := not_isBlank_of_mark marked
  rw [List.cons_append] at starts
  rw [List.cons_append, trivia, if_neg (by decide), solid, if_neg (by decide), if_pos starts,
    trivia_line inside, List.cons_append]

theorem trivia_newline (cs : List Char) : trivia true ('\n' :: cs) = '\n' :: trivia false cs := by
  rw [trivia, if_pos rfl, if_pos rfl]

theorem Trivia.trivia_append {gap : List Char} (passed : Trivia gap) (cs : List Char) :
    trivia false (gap ++ cs) = gap ++ trivia false cs := by
  induction passed with
  | nil => rfl
  | blank blank _ ih =>
    rw [List.cons_append, trivia, if_neg (by decide), if_pos blank, ih, List.cons_append]
  | comment marked inside _ ih =>
    rw [List.append_assoc, List.append_assoc, trivia_mark marked, trivia_line inside,
      List.cons_append, trivia_newline, ih]
    simp only [List.append_assoc, List.cons_append]

theorem Trivia.append {gap more : List Char} (first : Trivia gap) (second : Trivia more) :
    Trivia (gap ++ more) := by
  induction first with
  | nil => exact second
  | blank blank _ ih => exact .blank blank ih
  | comment marked inside _ ih =>
    rw [List.append_assoc, List.cons_append]
    exact .comment marked inside ih

theorem Trivia.endTrivia {gap more : List Char} (first : Trivia gap) (second : EndTrivia more) :
    EndTrivia (gap ++ more) := by
  cases second with
  | closed closed => exact .closed (first.append closed)
  | comment before marked inside =>
    rw [← List.append_assoc]
    exact .comment (first.append before) marked inside

/-- The characters have an end of line, or all of them belong to one line. -/
theorem line_cases (cs : List Char) :
    '\n' ∉ cs ∨ ∃ line rest, cs = line ++ '\n' :: rest ∧ '\n' ∉ line := by
  by_cases ends : '\n' ∈ cs
  · obtain ⟨line, rest, split, inside⟩ := List.eq_append_cons_of_mem ends
    exact .inr ⟨line, rest, split, inside⟩
  · exact .inl ends

/-- What begins the characters is trivia, and stops where no trivia go on. -/
theorem trivia_split (cs : List Char) :
    (trivia false cs = cs ∧ EndTrivia cs) ∨
      ∃ c rest, cs = trivia false cs ++ c :: rest ∧ Trivia (trivia false cs) ∧
        Unicode.isBlank c = false ∧ startsComment (c :: rest) = false := by
  induction length : cs.length using Nat.strongRecOn generalizing cs with
  | ind n ih =>
    cases cs with
    | nil => exact .inl ⟨rfl, .closed .nil⟩
    | cons c rest =>
      -- What is passed first leads on to shorter characters.
      have onward (gap more : List Char) (split : c :: rest = gap ++ more) (passed : Trivia gap)
          (shorter : more.length < n) :
          (trivia false (c :: rest) = c :: rest ∧ EndTrivia (c :: rest)) ∨
            ∃ d after, c :: rest = trivia false (c :: rest) ++ d :: after ∧
              Trivia (trivia false (c :: rest)) ∧ Unicode.isBlank d = false ∧
              startsComment (d :: after) = false := by
        rw [split, passed.trivia_append]
        rcases ih more.length shorter more rfl with ⟨whole, ends⟩ | ⟨d, after, same, gap', stops⟩
        · exact .inl ⟨by rw [whole], passed.endTrivia ends⟩
        · refine .inr ⟨d, after, ?_, passed.append gap', stops⟩
          rw [List.append_assoc, ← same]
      have positive : rest.length < n := by rw [← length, List.length_cons]; omega
      by_cases blank : Unicode.isBlank c
      · exact onward [c] rest rfl (.blank blank .nil) positive
      · cases starts : startsComment (c :: rest) with
        | false =>
          have nothing : trivia false (c :: rest) = [] := by
            rw [trivia, if_neg (by decide), if_neg blank, starts, if_neg (by decide)]
          rw [nothing]
          exact .inr ⟨c, rest, rfl, .nil, by simpa using blank, starts⟩
        | true =>
          obtain ⟨mark, marked, text, split⟩ := startsComment_iff.mp starts
          rcases line_cases text with open' | ⟨line, after, rfl, inside⟩
          · refine .inl ⟨?_, ?_⟩
            · have lineEnd := trivia_line open' []
              rw [List.append_nil, trivia, List.append_nil] at lineEnd
              rw [split, trivia_mark marked, lineEnd]
            · rw [split]
              exact .comment .nil marked open'
          · refine onward (mark ++ line ++ '\n' :: []) after ?_ (.comment marked inside .nil) ?_
            · rw [split]
              simp
            · have longer := congrArg List.length split
              rw [length] at longer
              simp only [List.length_append, List.length_cons] at longer
              omega

/-! ### Tokens -/

/-- The body of a string is there, and only a closing quote ends it before the input does. -/
theorem body_split (quote : Char) (cs : List Char) :
    ∃ after, cs = (body quote cs).text ++ after ∧ ((body quote cs).ending ≠ .quote → after = []) := by
  fun_induction body quote cs with
  | case1 => exact ⟨[], rfl, fun _ => rfl⟩
  | case2 => exact ⟨[], rfl, fun _ => rfl⟩
  | case3 => exact ⟨[], rfl, fun _ => rfl⟩
  | case4 => exact ⟨[], rfl, fun _ => rfl⟩
  | case5 e rest => exact ⟨e :: rest, rfl, fun open' => absurd rfl open'⟩
  | case6 e rest _ _ d _ ih =>
    obtain ⟨after, split, ends⟩ := ih
    exact ⟨after, congrArg ('\\' :: e :: ·) split, ends⟩
  | case7 e rest _ _ _ ih =>
    obtain ⟨after, split, ends⟩ := ih
    exact ⟨after, congrArg ('\\' :: e :: ·) split, ends⟩
  | case8 c e rest _ _ _ ih =>
    obtain ⟨after, split, ends⟩ := ih
    exact ⟨after, congrArg (c :: ·) split, ends⟩

theorem numeral_text_true (cs : List Char) :
    (numeral true cs).text = '-' :: (numeral false cs).text := rfl

theorem tokenAt_split (c : Char) (rest : List Char) :
    ∃ after, c :: rest = (tokenAt c rest).2 ++ after := by
  unfold tokenAt
  split
  · obtain ⟨after, split⟩ := nameFrom_prefix false rest
    split
    · exact ⟨after, congrArg (c :: ·) split⟩
    · exact ⟨rest, rfl⟩
  · split
    · exact ⟨rest, rfl⟩
    · split
      · obtain ⟨after, split, _⟩ := body_split c rest
        exact ⟨after, congrArg (c :: ·) split⟩
      · split
        · next minus =>
          simp only [Bool.and_eq_true, decide_eq_true_eq] at minus
          obtain ⟨after, split⟩ := numeral_prefix rest
          rw [minus.1, numeral_text_true]
          exact ⟨after, congrArg ('-' :: ·) split⟩
        · split
          · exact numeral_prefix (c :: rest)
          · split
            · exact nameFrom_prefix false (c :: rest)
            · exact ⟨rest, rfl⟩

theorem token?_eq_some {cs rest : List Char} {t : Token} (found : token? cs = some (t, rest)) :
    ∃ gap c more after, cs = gap ++ c :: after ∧ Trivia gap ∧ Unicode.isBlank c = false ∧
      startsComment (c :: after) = false ∧ c :: after = c :: more ++ rest ∧
      tokenAt c after = (t, c :: more) := by
  rcases trivia_split cs with ⟨whole, _⟩ | ⟨c, after, split, passed, solid, stops⟩
  · rw [token?, whole, List.drop_length] at found
    cases found
  · have place : cs.drop (trivia false cs).length = c :: after := by
      generalize trivia false cs = gap at split
      rw [split, List.drop_left]
    rw [token?, place] at found
    simp only [Option.some.injEq, Prod.mk.injEq] at found
    obtain ⟨rfl, rfl⟩ := found
    obtain ⟨more, text⟩ := tokenAt_text c after
    obtain ⟨later, whole⟩ := tokenAt_split c after
    refine ⟨trivia false cs, c, more, after, split, passed, solid, stops, ?_, Prod.ext rfl text⟩
    rw [text] at whole ⊢
    rw [whole, List.drop_left]

end Lexer

end Attest
