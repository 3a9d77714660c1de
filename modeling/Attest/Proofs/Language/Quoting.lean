import Attest.Proofs.Language.Strings
/-!
# Quoted text and strings

Quoted text is a string of the language as long as each of its characters is written as itself or by
an escape that strings have. Other escapes make it invalid.
-/

namespace Attest

/-- Between quotes the character is written as itself, or by an escape that strings have. -/
def Text.isQuotable (c : Char) : Bool :=
  c != '\x00' && (['\t', '\r', '\n', '"', '\\'].contains c || Unicode.isPrintable c)

theorem Text.isQuotable_eq {c : Char} (null : c ≠ '\x00') (tab : c ≠ '\t') (carriage : c ≠ '\r')
    (line : c ≠ '\n') (quote : c ≠ '"') (backslash : c ≠ '\\') :
    isQuotable c = Unicode.isPrintable c := by
  simp [isQuotable, null, tab, carriage, line, quote, backslash]

theorem Text.quotable_keyword {name : String} {t : Token} (known : keyword? name = some t) :
    name.toList.all isQuotable = true := by
  unfold keyword? at known
  split at known
  case h_10 => cases known
  all_goals decide +kernel

namespace Lexer

open Text

/-! ### Bodies -/

theorem body_char {quote c : Char} (closing : c ≠ quote) (backslash : c ≠ '\\') (cs : List Char) :
    body quote (c :: cs) = { body quote cs with
      value := c :: (body quote cs).value
      text := c :: (body quote cs).text } := by
  cases cs <;> simp [body, closing, backslash]

theorem body_escape {quote e d : Char} (other : '\\' ≠ quote) (known : unescape? e = some d)
    (cs : List Char) :
    body quote ('\\' :: e :: cs) = { body quote cs with
      value := d :: (body quote cs).value
      text := '\\' :: e :: (body quote cs).text } := by
  simp [body, other, known]

theorem body_badEscape {quote e : Char} (other : '\\' ≠ quote) (unknown : unescape? e = none)
    (cs : List Char) :
    body quote ('\\' :: e :: cs) = { body quote cs with
      badEscape := some e
      text := '\\' :: e :: (body quote cs).text } := by
  simp [body, other, unknown]

theorem body_chars {text : List Char} (plain : ∀ c ∈ text, c ≠ '"' ∧ c ≠ '\\') (cs : List Char) :
    (body '"' (text ++ cs)).ending = (body '"' cs).ending := by
  induction text with
  | nil => rfl
  | cons c text ih =>
    obtain ⟨first, rest⟩ := List.forall_mem_cons.mp plain
    rw [List.cons_append, body_char first.1 first.2]
    exact ih rest

theorem body_quotable {c : Char} (quotable : isQuotable c = true) (cs : List Char) :
    body '"' (escapeChar c ++ cs) = { body '"' cs with
      value := c :: (body '"' cs).value
      text := escapeChar c ++ (body '"' cs).text } := by
  unfold escapeChar
  split
  case h_1 => cases quotable
  case h_7 null tab carriage line quote backslash =>
    rw [isQuotable_eq null tab carriage line quote backslash] at quotable
    rw [if_pos quotable]
    exact body_char quote backslash cs
  all_goals exact body_escape (by decide) rfl cs

theorem body_unquotable {c : Char} (unquotable : isQuotable c = false) (cs : List Char) :
    (body '"' (escapeChar c ++ cs)).ending = (body '"' cs).ending ∧
      (body '"' (escapeChar c ++ cs)).badEscape.isSome := by
  unfold escapeChar
  split
  case h_1 =>
    have unknown : unescape? '0' = none := rfl
    rw [List.cons_append, List.singleton_append, body_badEscape (by decide) unknown]
    exact ⟨rfl, rfl⟩
  case h_7 null tab carriage line quote backslash =>
    rw [isQuotable_eq null tab carriage line quote backslash] at unquotable
    have plain : ∀ d ∈ '\x7b' :: (hexDigits c.toNat ++ ['\x7d']), d ≠ '"' ∧ d ≠ '\\' := by
      intro d member
      rw [List.mem_cons, List.mem_append, List.mem_singleton] at member
      rcases member with rfl | digit | rfl
      · decide
      · exact plain_of_mem_hexDigits digit
      · decide
    have text : unicodeEscape c ++ cs =
        '\\' :: 'u' :: ('\x7b' :: (hexDigits c.toNat ++ ['\x7d']) ++ cs) := by
      simp [unicodeEscape]
    rw [unquotable, if_neg Bool.false_ne_true, text, body_badEscape (by decide) rfl]
    exact ⟨body_chars plain cs, rfl⟩
  all_goals cases unquotable

/-- The characters before a closing quote are read as themselves. -/
theorem body_quoted {cs : List Char} (quotable : cs.all isQuotable = true) :
    body '"' (cs.flatMap escapeChar ++ ['"']) =
      ⟨cs, none, .quote, cs.flatMap escapeChar ++ ['"']⟩ := by
  induction cs with
  | nil => rfl
  | cons c cs ih =>
    rw [List.all_cons, Bool.and_eq_true] at quotable
    rw [List.flatMap_cons, List.append_assoc, body_quotable quotable.1, ih quotable.2]

theorem ending_quoted (cs : List Char) :
    (body '"' (cs.flatMap escapeChar ++ ['"'])).ending = .quote := by
  induction cs with
  | nil => rfl
  | cons c cs ih =>
    rw [List.flatMap_cons, List.append_assoc]
    cases quotable : isQuotable c with
    | true =>
      rw [body_quotable quotable]
      exact ih
    | false => exact (body_unquotable quotable _).1.trans ih

theorem badEscape_quoted {cs : List Char} (unquotable : cs.all isQuotable = false) :
    (body '"' (cs.flatMap escapeChar ++ ['"'])).badEscape.isSome := by
  induction cs with
  | nil => cases unquotable
  | cons c cs ih =>
    rw [List.flatMap_cons, List.append_assoc]
    cases quotable : isQuotable c with
    | true =>
      rw [List.all_cons, quotable, Bool.true_and] at unquotable
      rw [body_quotable quotable]
      exact ih unquotable
    | false => exact (body_unquotable quotable _).2

/-! ### Tokens -/

theorem token?_quoteChars (cs rest : List Char) :
    token? (quoteChars cs ++ rest) =
      some ((body '"' (cs.flatMap escapeChar ++ ['"'])).token, rest) := by
  obtain ⟨t, same⟩ := quoted_token cs
  have alone := same []
  have mark : punctuation? '"' = none := by decide
  rw [List.append_nil, quoteChars, token?_of_isSolid (by decide)] at alone
  simp only [tokenAt, mark, Option.some.injEq, Prod.mk.injEq] at alone
  rw [same, ← alone.1]
  rfl

/-- Quoted text of quotable characters is the string of these characters. -/
theorem Reads.quote {v : String} (quotable : v.toList.all isQuotable = true) :
    Reads (Text.quote v).toList [.string v] := by
  intro rest _
  refine .single ?_
  rw [toList_quote, token?_quoteChars, body_quoted quotable, Body.token, String.ofList_toList]

/-- Quoted text with another character is no token. -/
theorem token?_quote_invalid {v : String} (unquotable : v.toList.all isQuotable = false)
    (rest : List Char) :
    ∃ reason, token? ((Text.quote v).toList ++ rest) = some (.invalid reason, rest) := by
  obtain ⟨e, bad⟩ := Option.isSome_iff_exists.mp (badEscape_quoted unquotable)
  refine ⟨.badEscape e, ?_⟩
  rw [toList_quote, token?_quoteChars, Body.token, ending_quoted, bad]

end Lexer

end Attest
