import Attest.Proofs.Language.Occurrences
import Attest.Proofs.Language.Quoting
/-!
# Closing quotes

A string goes up to the first quote of its kind that is not escaped, which is the first one behind
an even number of backslashes. What stands before it is the text of the string.
-/

namespace Attest

namespace Lexer

/-- The characters that begin a string. -/
def quotes : List Char := ['"', '\'']

theorem mem_quotes {quote : Char} : quote ∈ quotes ↔ quote = '"' ∨ quote = '\'' := by
  simp [quotes]

theorem ne_of_mem_quotes {quote : Char} (member : quote ∈ quotes) : '\\' ≠ quote := by
  rcases mem_quotes.mp member with rfl | rfl <;> decide

/-! ### Backslashes -/

/-- The number of backslashes that end the characters. -/
def backslashes (cs : List Char) : Nat :=
  (cs.reverse.takeWhile (· == '\\')).length

/-- What comes behind the characters is escaped: the backslashes that end them are not all
paired. -/
def Escapes (cs : List Char) : Prop :=
  backslashes cs % 2 = 1

instance (cs : List Char) : Decidable (Escapes cs) :=
  inferInstanceAs (Decidable (backslashes cs % 2 = 1))

theorem backslashes_le (cs : List Char) : backslashes cs ≤ cs.length := by
  have short := (List.takeWhile_prefix (l := cs.reverse) (· == '\\')).length_le
  rwa [List.length_reverse] at short

theorem backslashes_cons_of_ne {c : Char} (plain : c ≠ '\\') (cs : List Char) :
    backslashes (c :: cs) = backslashes cs := by
  unfold backslashes
  rw [List.reverse_cons, List.takeWhile_append]
  split
  · next whole => simp [plain, whole]
  · rfl

theorem backslashes_cons_backslash (cs : List Char) :
    backslashes ('\\' :: cs) = if backslashes cs = cs.length then cs.length + 1
      else backslashes cs := by
  unfold backslashes
  rw [List.reverse_cons, List.takeWhile_append, List.length_reverse]
  split
  · simp
  · rfl

theorem escapes_cons {c : Char} (plain : c ≠ '\\') (cs : List Char) :
    Escapes (c :: cs) ↔ Escapes cs := by
  rw [Escapes, Escapes, backslashes_cons_of_ne plain]

/-- A backslash and what it escapes have no part in what comes later. -/
theorem escapes_pair (e : Char) (cs : List Char) : Escapes ('\\' :: e :: cs) ↔ Escapes cs := by
  have bound := backslashes_le cs
  rw [Escapes, Escapes, backslashes_cons_backslash, List.length_cons]
  by_cases backslash : e = '\\'
  · subst backslash
    rw [backslashes_cons_backslash]
    split
    · rw [if_pos rfl]
      omega
    · rw [if_neg (by omega)]
  · rw [backslashes_cons_of_ne backslash, if_neg (by omega)]

/-! ### The closing quote -/

/-- Each of these quotes in the characters is escaped. -/
def NeverClosed (quote : Char) (cs : List Char) : Prop :=
  ∀ front later, cs = front ++ quote :: later → Escapes front

/-- The first quote of its kind that is not escaped stands behind the text of the string. -/
structure ClosedBehind (quote : Char) (cs inside rest : List Char) : Prop where
  split : cs = inside ++ quote :: rest
  closes : ¬ Escapes inside
  first : NeverClosed quote inside

variable {quote c e : Char} {cs inside rest : List Char}

theorem NeverClosed.of_cons (never : NeverClosed quote (c :: cs)) (plain : c ≠ '\\') :
    c ≠ quote ∧ NeverClosed quote cs := by
  refine ⟨?_, fun front later split => ?_⟩
  · rintro rfl
    exact absurd (never [] cs rfl) (by decide)
  · rw [← escapes_cons plain]
    exact never (c :: front) later (by rw [split, List.cons_append])

theorem NeverClosed.of_pair (never : NeverClosed quote ('\\' :: e :: cs)) :
    NeverClosed quote cs := by
  intro front later split
  rw [← escapes_pair e]
  exact never ('\\' :: e :: front) later (by rw [split, List.cons_append, List.cons_append])

/-- Either a quote closes the string or none does. -/
theorem closed_or_never (quote : Char) (cs : List Char) :
    (∃ inside rest, ClosedBehind quote cs inside rest) ∨ NeverClosed quote cs := by
  by_cases never : NeverClosed quote cs
  · exact .inr never
  · simp only [NeverClosed, Classical.not_forall] at never
    obtain ⟨front, later, split, closes⟩ := never
    refine .inl ?_
    -- Of two quotes that are not escaped the first comes behind fewer characters.
    induction length : front.length using Nat.strongRecOn generalizing front later with
    | ind n ih =>
      by_cases first : NeverClosed quote front
      · exact ⟨front, later, split, closes, first⟩
      · simp only [NeverClosed, Classical.not_forall] at first
        obtain ⟨before, between, parts, closes'⟩ := first
        have shorter : before.length < n := by
          rw [← length, parts, List.length_append, List.length_cons]
          omega
        refine ih before.length shorter before (between ++ quote :: later) ?_ closes' rfl
        rw [split, parts, List.append_assoc, List.cons_append]

/-! ### What a string holds -/

/-- The escapes of a string: what stands behind the backslash, and what the two stand for. -/
def escapeTable : List (Char × Char) := [
  ('n', '\n'),
  ('t', '\t'),
  ('r', '\r'),
  ('"', '"'),
  ('\'', '\''),
  ('\\', '\\')]

theorem unescape?_eq_lookup (e : Char) : unescape? e = escapeTable.lookup e := by
  unfold unescape?
  split
  case h_7 => simp (disch := assumption) only [escapeTable, List.lookup_cons, List.lookup_nil,
    beq_false_of_ne]
  all_goals rfl

theorem lookup_of_mem_quotes {quote : Char} (member : quote ∈ quotes) :
    escapeTable.lookup quote = some quote := by
  rcases mem_quotes.mp member with rfl | rfl <;> decide

/-- What the characters stand for with each escape replaced, or the first character that no escape
may hold. -/
def decoded : List Char → Except Char (List Char)
  | [] => .ok []
  | '\\' :: e :: rest =>
    match escapeTable.lookup e with
    | some d => (decoded rest).map (d :: ·)
    | none => .error e
  | c :: rest => (decoded rest).map (c :: ·)

/-- The token of a closed string from what stands between its quotes. -/
def stringToken (inside : List Char) : Token :=
  match decoded inside with
  | .ok value => .string (String.ofList value)
  | .error e => .invalid (.badEscape e)

/-- The body of a string is closed behind these characters. -/
structure Body.Holds (b : Body) (quote : Char) (inside : List Char) : Prop where
  ending : b.ending = .quote
  text : b.text = inside ++ [quote]
  content : decoded inside = match b.badEscape with
    | some e => .error e
    | none => .ok b.value

theorem Body.Holds.token {b : Body} (holds : b.Holds quote inside) :
    b.token = stringToken inside := by
  unfold Body.token stringToken
  rw [holds.ending, holds.content]
  cases b.badEscape <;> rfl

theorem holds_nil (quote : Char) (rest : List Char) :
    (body quote (quote :: rest)).Holds quote [] := by
  have closed : body quote (quote :: rest) = ⟨[], none, .quote, [quote]⟩ := by
    cases rest <;> simp [body]
  rw [closed]
  exact ⟨rfl, rfl, rfl⟩

theorem Body.Holds.char (holds : (body quote cs).Holds quote inside) (plain : c ≠ '\\')
    (other : c ≠ quote) : (body quote (c :: cs)).Holds quote (c :: inside) := by
  obtain ⟨ending, text, content⟩ := holds
  rw [body_char other plain]
  refine ⟨ending, congrArg (c :: ·) text, ?_⟩
  rw [decoded, content]
  · dsimp only
    cases (body quote cs).badEscape <;> rfl
  · intro e rest same
    exact absurd same plain

theorem Body.Holds.escape (holds : (body quote cs).Holds quote inside) (other : '\\' ≠ quote)
    (e : Char) : (body quote ('\\' :: e :: cs)).Holds quote ('\\' :: e :: inside) := by
  obtain ⟨ending, text, content⟩ := holds
  cases known : escapeTable.lookup e with
  | some d =>
    rw [body_escape other ((unescape?_eq_lookup e).trans known)]
    refine ⟨ending, congrArg ('\\' :: e :: ·) text, ?_⟩
    simp only [decoded, known, content]
    cases (body quote cs).badEscape <;> rfl
  | none =>
    rw [body_badEscape other ((unescape?_eq_lookup e).trans known)]
    refine ⟨ending, congrArg ('\\' :: e :: ·) text, ?_⟩
    simp only [decoded, known]

/-- The body of a string goes up to its closing quote. -/
theorem body_of_closed (other : '\\' ≠ quote) (closes : ¬ Escapes inside)
    (first : NeverClosed quote inside) (rest : List Char) :
    (body quote (inside ++ quote :: rest)).Holds quote inside := by
  fun_induction body quote inside with
  | case1 => exact holds_nil quote rest
  | case2 => exact absurd (first [] [] rfl) (by decide)
  | case3 => exact absurd (by decide) closes
  | case4 c different plain => exact (holds_nil quote rest).char plain different
  | case5 e inside => exact absurd (first [] _ rfl) (by decide)
  | case6 e inside _ _ _ _ ih | case7 e inside _ _ _ ih =>
    exact (ih (mt (escapes_pair e inside).mpr closes) first.of_pair).escape other e
  | case8 c e inside different plain _ ih =>
    have later := (first.of_cons plain).2
    exact (ih (mt (escapes_cons plain _).mpr closes) later).char plain different

/-- Without a closing quote it goes on to the end. -/
theorem body_of_neverClosed (never : NeverClosed quote cs) :
    (body quote cs).text = cs ∧
      (body quote cs).ending = if Escapes cs then .backslash else .input := by
  fun_induction body quote cs with
  | case1 => exact ⟨rfl, rfl⟩
  | case2 => exact absurd (never [] [] rfl) (by decide)
  | case3 => exact ⟨rfl, rfl⟩
  | case4 c different plain =>
    have closes : ¬ Escapes [c] := by
      rw [escapes_cons plain]
      decide
    exact ⟨rfl, (if_neg closes).symm⟩
  | case5 e rest => exact absurd (never [] _ rfl) (by decide)
  | case6 e rest _ _ _ _ ih | case7 e rest _ _ _ ih =>
    obtain ⟨text, ending⟩ := ih never.of_pair
    simp only [escapes_pair]
    exact ⟨congrArg ('\\' :: e :: ·) text, ending⟩
  | case8 c e rest different plain _ ih =>
    obtain ⟨text, ending⟩ := ih (never.of_cons plain).2
    simp only [escapes_cons plain]
    exact ⟨congrArg (c :: ·) text, ending⟩

/-! ### Tokens -/

theorem tokenAt_quote (member : quote ∈ quotes) (rest : List Char) :
    tokenAt quote rest = ((body quote rest).token, quote :: (body quote rest).text) := by
  have quoted := mem_quotes.mp member
  have marks : quote ≠ '$' ∧ punctuation? quote = none := by
    rcases quoted with rfl | rfl <;> decide
  simp [tokenAt, marks, quoted]

/-- The characters with a backslash before each backslash and each of the marks. -/
def escaped (marks cs : List Char) : List Char :=
  cs.flatMap fun c => if c = '\\' ∨ c ∈ marks then ['\\', c] else [c]

/-- The text between quotes, with the marks escaped. -/
def quotedBy (quote : Char) (marks : List Char) (text : String) : String :=
  String.ofList (quote :: (escaped marks text.toList ++ [quote]))

variable {marks : List Char}

theorem escaped_cons (marks : List Char) (c : Char) (cs : List Char) :
    escaped marks (c :: cs) =
      if c = '\\' ∨ c ∈ marks then '\\' :: c :: escaped marks cs else c :: escaped marks cs := by
  unfold escaped
  rw [List.flatMap_cons]
  split <;> rfl

theorem decoded_escaped (marked : marks ⊆ quotes) (cs : List Char) :
    decoded (escaped marks cs) = .ok cs := by
  induction cs with
  | nil => rfl
  | cons c cs ih =>
    rw [escaped_cons]
    split
    · next special =>
      have known : escapeTable.lookup c = some c := by
        rcases special with rfl | mark
        · rfl
        · exact lookup_of_mem_quotes (marked mark)
      simp only [decoded, known, ih]
      rfl
    · next plain =>
      rw [not_or] at plain
      rw [decoded, ih]
      · rfl
      · intro e rest same
        exact absurd same plain.1

theorem holds_escaped (other : '\\' ≠ quote) (marked : quote ∈ marks) (cs rest : List Char) :
    (body quote (escaped marks cs ++ quote :: rest)).Holds quote (escaped marks cs) := by
  induction cs with
  | nil => exact holds_nil quote rest
  | cons c cs ih =>
    rw [escaped_cons]
    split
    · exact ih.escape other c
    · next plain =>
      rw [not_or] at plain
      exact ih.char plain.1 fun same => plain.2 (same ▸ marked)

theorem token?_quotedBy (member : quote ∈ quotes) (within : marks ⊆ quotes)
    (marked : quote ∈ marks) (cs rest : List Char) :
    token? (quote :: (escaped marks cs ++ quote :: rest)) =
      some (.string (String.ofList cs), rest) := by
  have solid : isSolid quote := by
    rcases mem_quotes.mp member with rfl | rfl <;> decide
  have holds := holds_escaped (ne_of_mem_quotes member) marked cs rest
  have reads : tokenAt quote (escaped marks cs ++ quote :: rest) =
      (.string (String.ofList cs), quote :: escaped marks cs ++ [quote]) := by
    rw [tokenAt_quote member, holds.token, holds.text, stringToken, decoded_escaped within]
    rfl
  have whole : quote :: (escaped marks cs ++ quote :: rest) =
      quote :: escaped marks cs ++ [quote] ++ rest := by simp
  rw [token?_of_isSolid solid, reads, whole]
  exact congrArg (fun after => some (_, after)) List.drop_left

theorem readsAs_quotedBy (member : quote ∈ quotes) (within : marks ⊆ quotes)
    (marked : quote ∈ marks) (text : String) :
    ReadsAs (quotedBy quote marks text) [.string text] := by
  have first := token?_quotedBy member within marked text.toList []
  rw [String.ofList_toList] at first
  refine readsAs_iff.mpr ⟨[], ?_, rfl⟩
  rw [quotedBy, String.toList_ofList]
  exact .single first

end Lexer

open Lexer

/-- A token that begins with a quote goes up to the first such quote behind it that is not escaped,
and is the string of what stands between them, or is invalid for the first escape that is none.
Without a closing quote it goes on to the end of the source and is invalid. So any text is read back
from between quotes when backslashes and quotes in it are escaped. -/
theorem lex_strings :
    (∀ source, ∀ l ∈ lex source, ∀ quote ∈ quotes, ∀ after,
      source.toList.drop l.start.offset = quote :: after →
        (∃ inside rest, ClosedBehind quote after inside rest ∧ l.token = stringToken inside ∧
          l.stop.offset = l.start.offset + (inside.length + 2)) ∨
        (NeverClosed quote after ∧
          l.token = .invalid (if Escapes after then .endsInEscape else .missingQuote) ∧
          l.stop.offset = source.length)) ∧
      ∀ quote ∈ quotes, ∀ marks ⊆ quotes, quote ∈ marks → ∀ text,
        ReadsAs (quotedBy quote marks text) [.string text] := by
  refine ⟨?_, fun quote member marks within marked => readsAs_quotedBy member within marked⟩
  intro source l member quote quoted after place
  cases occurs_of_mem_lex member with
  | stop scans split ends token start stop =>
    rw [start, List.drop_length] at place
    cases place
  | @token us front gap more behind rest c scans split passed reads found whole start stop =>
    rw [split, ← List.append_assoc, start, List.drop_left] at place
    obtain ⟨rfl, rfl⟩ := List.cons.inj place
    have other := ne_of_mem_quotes quoted
    rw [tokenAt_quote quoted] at reads
    obtain ⟨token, text⟩ := Prod.mk.inj reads
    obtain rfl := (List.cons.inj text).2
    rcases closed_or_never c behind with ⟨inside, rest, closed⟩ | never
    · have holds := body_of_closed other closed.closes closed.first rest
      rw [← closed.split] at holds
      refine .inl ⟨inside, rest, closed, by rw [← token, holds.token], ?_⟩
      rw [stop, start, holds.text]
      simp only [List.length_append, List.length_cons, List.length_nil]
    · obtain ⟨text, ending⟩ := body_of_neverClosed never
      refine .inr ⟨never, ?_, ?_⟩
      · rw [← token, Body.token, ending]
        by_cases escapes : Escapes behind
        · rw [if_pos escapes, if_pos escapes]
        · rw [if_neg escapes, if_neg escapes]
      · rw [stop, text, ← String.length_toList, split, List.append_assoc]

/-- The quotes of the other kind stand as they are. -/
theorem lex_strings_possessive :
    quotedBy '"' ['"'] "it's \"x\"" = "\"it's \\\"x\\\"\"" ∧
      ReadsAs "\"it's \\\"x\\\"\"" [.string "it's \"x\""] := by
  have written : quotedBy '"' ['"'] "it's \"x\"" = "\"it's \\\"x\\\"\"" := by decide
  refine ⟨written, ?_⟩
  rw [← written]
  exact lex_strings.2 '"' (by decide) ['"'] (by decide) (by decide) _

end Attest
