import Attest.Proofs.Language.Words
/-!
# Strings

Quoted text ends at its closing quote, whatever follows it.
-/

namespace Attest

namespace Lexer

/-! ### Strings -/

theorem digitChar_of_mem_toDigitsCore {base fuel n : Nat} {c : Char} {ds : List Char}
    (positive : 0 < base) (member : c ∈ Nat.toDigitsCore base fuel n ds) :
    c ∈ ds ∨ ∃ k < base, c = Nat.digitChar k := by
  induction fuel generalizing n ds with
  | zero => exact .inl member
  | succ fuel ih =>
    have digit : n % base < base := Nat.mod_lt n positive
    unfold Nat.toDigitsCore at member
    dsimp only at member
    split at member
    · rcases List.mem_cons.mp member with rfl | old
      · exact .inr ⟨n % base, digit, rfl⟩
      · exact .inl old
    · rcases ih member with new | later
      · rcases List.mem_cons.mp new with rfl | old
        · exact .inr ⟨n % base, digit, rfl⟩
        · exact .inl old
      · exact .inr later

theorem plain_of_mem_hexDigits {c : Char} {n : Nat} (member : c ∈ Text.hexDigits n) :
    c ≠ '"' ∧ c ≠ '\\' := by
  rcases digitChar_of_mem_toDigitsCore (by decide) member with absent | ⟨k, digit, rfl⟩
  · cases absent
  · have every : ∀ k < 16, Nat.digitChar k ≠ '"' ∧ Nat.digitChar k ≠ '\\' := by decide
    exact every k digit

/-- The body of a string in double quotes is `cs`, whatever follows it. -/
def Closes (cs : List Char) : Prop :=
  ∃ b : Body, b.text = cs ∧ ∀ rest, body '"' (cs ++ rest) = b

namespace Closes

variable {cs : List Char}

theorem quote : Closes ['"'] := by
  refine ⟨⟨[], none, .quote, ['"']⟩, rfl, ?_⟩
  intro rest
  cases rest <;> simp [body]

theorem ne_nil (closes : Closes cs) : cs ≠ [] := by
  rintro rfl
  obtain ⟨b, _, same⟩ := closes
  have empty : body '"' [] = body '"' ['"'] := (same []).trans (same ['"']).symm
  cases empty

theorem char {c : Char} (closing : c ≠ '"') (backslash : c ≠ '\\') (later : Closes cs) :
    Closes (c :: cs) := by
  have nonempty := later.ne_nil
  obtain ⟨b, text, same⟩ := later
  refine ⟨{ b with value := c :: b.value, text := c :: b.text }, congrArg (c :: ·) text, ?_⟩
  intro rest
  rw [List.cons_append]
  have tail := same rest
  cases place : cs ++ rest with
  | nil => exact absurd (List.append_eq_nil_iff.mp place).1 nonempty
  | cons d ds =>
    rw [place] at tail
    simp [body, closing, backslash, tail]

theorem escape (e : Char) (later : Closes cs) : Closes ('\\' :: e :: cs) := by
  obtain ⟨b, text, same⟩ := later
  cases found : unescape? e with
  | some d =>
    refine ⟨{ b with value := d :: b.value, text := '\\' :: e :: b.text }, ?_, ?_⟩
    · exact congrArg ('\\' :: e :: ·) text
    · intro rest
      simp [body, found, same rest]
  | none =>
    refine ⟨{ b with badEscape := some e, text := '\\' :: e :: b.text }, ?_, ?_⟩
    · exact congrArg ('\\' :: e :: ·) text
    · intro rest
      simp [body, found, same rest]

theorem chars {text : List Char} (plain : ∀ c ∈ text, c ≠ '"' ∧ c ≠ '\\') (later : Closes cs) :
    Closes (text ++ cs) := by
  induction text with
  | nil => exact later
  | cons c text ih =>
    obtain ⟨first, rest⟩ := List.forall_mem_cons.mp plain
    exact (ih rest).char first.1 first.2

theorem escapeChar (c : Char) (later : Closes cs) : Closes (Text.escapeChar c ++ cs) := by
  unfold Text.escapeChar
  split
  case h_7 quote backslash =>
    split
    · exact later.char quote backslash
    · have plain : ∀ d ∈ '\x7b' :: (Text.hexDigits c.toNat ++ ['\x7d']), d ≠ '"' ∧ d ≠ '\\' := by
        intro d member
        rw [List.mem_cons, List.mem_append, List.mem_singleton] at member
        rcases member with rfl | digit | rfl
        · decide
        · exact plain_of_mem_hexDigits digit
        · decide
      simpa [Text.unicodeEscape] using (later.chars plain).escape 'u'
  all_goals exact later.escape _

end Closes

theorem closes_quoted (cs : List Char) : Closes (cs.flatMap Text.escapeChar ++ ['"']) := by
  induction cs with
  | nil => exact .quote
  | cons c cs ih =>
    rw [List.flatMap_cons, List.append_assoc]
    exact ih.escapeChar c

/-- Quoted text is one token, and always the same one. -/
theorem quoted_token (cs : List Char) :
    ∃ t, ∀ rest, token? (Text.quoteChars cs ++ rest) = some (t, rest) := by
  obtain ⟨b, text, same⟩ := closes_quoted cs
  refine ⟨b.token, fun rest => ?_⟩
  have mark : punctuation? '"' = none := by decide
  have first :
      tokenAt '"' (cs.flatMap Text.escapeChar ++ ['"'] ++ rest) = (b.token, '"' :: b.text) := by
    rw [← same rest]
    simp [tokenAt, mark]
  rw [Text.quoteChars, List.cons_append, token?_of_isSolid (by decide), first, text]
  exact congrArg (fun after => some (b.token, after)) List.drop_left

theorem toList_quote (v : String) : (Text.quote v).toList = Text.quoteChars v.toList :=
  String.toList_ofList

/-- Quoted text that is read as a string somewhere is read as that string everywhere. -/
theorem Reads.string {v : String} {after mid : List Char}
    (first : token? ((Text.quote v).toList ++ after) = some (.string v, mid)) :
    Reads (Text.quote v).toList [.string v] := by
  obtain ⟨t, same⟩ := quoted_token v.toList
  rw [toList_quote] at first ⊢
  rw [same, Option.some.injEq, Prod.mk.injEq] at first
  intro rest _
  refine .single ?_
  rw [same, first.1]

end Lexer

end Attest
