import Attest.Language.Path
import Attest.Proofs.Language.Words
/-!
# Names

A joiner goes on with a name only before a character of names. So of the plain names those with
two joiners in a row are no names of the language, and each other one is.
-/

namespace Attest

namespace Lexer

/-! ### Joiners -/

/-- No joiner stands right before another one. -/
def joinersApart : List Char → Bool
  | c :: d :: rest => !(isJoiner c && isJoiner d) && joinersApart (d :: rest)
  | _ => true

theorem joiner_cases {c : Char} (joiner : isJoiner c) : c = '-' ∨ c = ':' := by
  simpa [isJoiner] using joiner

theorem not_isNameChar_of_isJoiner {c : Char} (joiner : isJoiner c) : isNameChar c = false := by
  rcases joiner_cases joiner with rfl | rfl <;> decide

theorem not_isJoiner_of_isNameChar {c : Char} (char : isNameChar c = true) :
    isJoiner c = false := by
  rw [Bool.eq_false_iff]
  intro joiner
  exact Bool.false_ne_true ((not_isNameChar_of_isJoiner joiner).symm.trans char)

theorem joinersApart_of_none {cs : List Char} (plain : ∀ c ∈ cs, isJoiner c = false) :
    joinersApart cs = true := by
  fun_induction joinersApart cs with
  | case1 c d rest ih =>
    obtain ⟨first, later⟩ := List.forall_mem_cons.mp plain
    rw [first, ih later]
    rfl
  | case2 => rfl

/-! ### Names and what is read of them -/

section

variable {c : Char} {cs : List Char}

theorem nameFrom_cons (char : isNameChar c) (started : Bool) :
    nameFrom started (c :: cs) = c :: nameFrom true cs := by
  rw [nameFrom, if_pos char]

theorem nameFrom_joiner {d : Char} (joiner : isJoiner c) (char : isNameChar d) :
    nameFrom true (c :: d :: cs) = c :: nameFrom true (d :: cs) := by
  rw [nameFrom, not_isNameChar_of_isJoiner joiner, if_neg Bool.false_ne_true, joiner]
  exact if_pos char

theorem nameFrom_of_apart (each : ∀ d ∈ cs, isNameChar d = true ∨ isJoiner d = true)
    (ends : cs.getLast?.any isJoiner = false) (apart : joinersApart cs = true) :
    nameFrom true cs = cs := by
  fun_induction joinersApart cs with
  | case1 c d rest ih =>
    obtain ⟨first, later⟩ := List.forall_mem_cons.mp each
    rw [Bool.and_eq_true, Bool.not_eq_true', Bool.and_eq_false_iff] at apart
    have onward := ih later (List.getLast?_cons_cons ▸ ends) apart.2
    rcases first with char | joiner
    · rw [nameFrom_cons char, onward]
    · have other : isJoiner d = false := apart.1.resolve_left (by simp [joiner])
      have char : isNameChar d = true :=
        (later d List.mem_cons_self).resolve_right (by simp [other])
      rw [nameFrom_joiner joiner char, onward]
  | case2 cs short =>
    match cs with
    | [] => rfl
    | [c] =>
      have other : isJoiner c = false := ends
      have char : isNameChar c = true := (each c List.mem_cons_self).resolve_right (by simp [other])
      rw [nameFrom_cons char, nameFrom]
    | c :: d :: rest => exact absurd rfl (short c d rest)

/-- Two joiners in a row end the name before them. -/
theorem nameFrom_of_doubled (each : ∀ d ∈ cs, isNameChar d = true ∨ isJoiner d = true)
    (doubled : joinersApart cs = false) (rest : List Char) :
    ∃ front a b after, cs = front ++ a :: b :: after ∧ isJoiner a = true ∧ isJoiner b = true ∧
      nameFrom true (cs ++ rest) = front := by
  fun_induction joinersApart cs with
  | case1 c d cs ih =>
    obtain ⟨first, later⟩ := List.forall_mem_cons.mp each
    by_cases both : isJoiner c = true ∧ isJoiner d = true
    · refine ⟨[], c, d, cs, rfl, both.1, both.2, ?_⟩
      have stop := not_isNameChar_of_isJoiner both.1
      have next : (d :: (cs ++ rest)).head?.any isNameChar = false :=
        not_isNameChar_of_isJoiner both.2
      rw [List.cons_append, List.cons_append, nameFrom, stop, if_neg Bool.false_ne_true, next,
        Bool.and_false, if_neg Bool.false_ne_true]
    · have further : joinersApart (d :: cs) = false := by
        rw [← Bool.and_eq_true, Bool.not_eq_true] at both
        rwa [both, Bool.not_false, Bool.true_and] at doubled
      obtain ⟨front, a, b, after, split, first', second, word⟩ := ih later further
      refine ⟨c :: front, a, b, after, by rw [split, List.cons_append], first', second, ?_⟩
      rw [List.cons_append]
      rcases first with char | joiner
      · rw [nameFrom_cons char, word]
      · have char : isNameChar d = true :=
          (later d List.mem_cons_self).resolve_right fun other => by simp [joiner, other] at both
        rw [List.cons_append, nameFrom_joiner joiner char, ← List.cons_append, word]
  | case2 => cases doubled

end

/-- The parts of a plain name. -/
theorem plain_parts {name : String} (plain : isPlainName name) :
    name.toList.head?.any isNameStart = true ∧
      (∀ c ∈ name.toList, isNameChar c = true ∨ isJoiner c = true) ∧
        name.toList.getLast?.any isJoiner = false ∧ keyword? name = none := by
  simpa [isPlainName, and_assoc] using plain

/-! ### Words -/

/-- The lexer reads all of the text as one name. -/
def IsWord (name : String) : Prop :=
  name.toList.head?.any isNameStart = true ∧ Lexer.name name.toList = name.toList

theorem nameFrom_nameFrom (started : Bool) (cs : List Char) :
    nameFrom started (nameFrom started cs) = nameFrom started cs := by
  induction cs generalizing started with
  | nil => rfl
  | cons c cs ih =>
    by_cases char : isNameChar c
    · rw [nameFrom_cons char, nameFrom_cons char, ih]
    · rw [nameFrom, if_neg char]
      split
      · next join =>
        -- The name goes on behind a joiner, so its next character is that of the text.
        have next : (nameFrom true cs).head?.any isNameChar = cs.head?.any isNameChar := by
          cases cs with
          | nil => rfl
          | cons d cs =>
            have char : isNameChar d = true := ((Bool.and_eq_true _ _).mp join).2
            rw [nameFrom_cons char]
            rfl
        rw [nameFrom, if_neg char, next, if_pos join, ih]
      · rfl

theorem nameFrom_of_chars {cs : List Char} (chars : ∀ c ∈ cs, isNameChar c = true)
    (started : Bool) : nameFrom started cs = cs := by
  induction cs generalizing started with
  | nil => rfl
  | cons c cs ih =>
    obtain ⟨char, others⟩ := List.forall_mem_cons.mp chars
    rw [nameFrom_cons char, ih others]

theorem isWord_ofList {cs : List Char} (start : cs.head?.any isNameStart = true) :
    IsWord (String.ofList (name cs)) := by
  unfold IsWord
  rw [String.toList_ofList]
  refine ⟨?_, nameFrom_nameFrom false cs⟩
  cases cs with
  | nil => cases start
  | cons c cs =>
    rw [name, nameFrom_cons (isNameChar_of_isNameStart start)]
    exact start

/-- A joiner stands in a name only before another character of it. -/
theorem nameFrom_parts (started : Bool) (cs : List Char) :
    (∀ c ∈ nameFrom started cs, isNameChar c = true ∨ isJoiner c = true) ∧
      (nameFrom started cs).getLast?.any isJoiner = false := by
  induction cs generalizing started with
  | nil => simp [nameFrom]
  | cons c cs ih =>
    obtain ⟨each, ends⟩ := ih true
    by_cases char : isNameChar c
    · rw [nameFrom_cons char]
      refine ⟨List.forall_mem_cons.mpr ⟨.inl char, each⟩, ?_⟩
      cases more : nameFrom true cs with
      | nil => exact not_isJoiner_of_isNameChar char
      | cons d ds => rwa [List.getLast?_cons_cons, ← more]
    · rw [nameFrom, if_neg char]
      split
      · next join =>
        obtain ⟨joiner, next⟩ := (Bool.and_eq_true _ _).mp join
        refine ⟨List.forall_mem_cons.mpr ⟨.inr ((Bool.and_eq_true _ _).mp joiner).1, each⟩, ?_⟩
        cases cs with
        | nil => cases next
        | cons d cs =>
          have next : isNameChar d = true := next
          rw [nameFrom_cons next] at ends ⊢
          rwa [List.getLast?_cons_cons]
      · simp

theorem isPlainName_of_word {name : String} (word : IsWord name) (free : keyword? name = none) :
    isPlainName name = true := by
  obtain ⟨start, whole⟩ := word
  obtain ⟨each, ends⟩ := nameFrom_parts false name.toList
  have same : nameFrom false name.toList = name.toList := whole
  rw [same] at each ends
  simpa [isPlainName, start, ends, free] using each

theorem isWord_of_plain {name : String} (plain : isPlainName name)
    (apart : joinersApart name.toList = true) : IsWord name := by
  obtain ⟨start, each, ends, _⟩ := plain_parts plain
  refine ⟨start, ?_⟩
  have whole := nameFrom_of_apart each ends apart
  unfold Lexer.name
  cases place : name.toList with
  | nil => rfl
  | cons c cs =>
    rw [place] at start whole
    have char := isNameChar_of_isNameStart start
    rw [nameFrom_cons char] at whole ⊢
    exact whole

/-- A word that is no keyword is an identifier before a boundary. -/
theorem Reads.word {name : String} (word : IsWord name) (free : keyword? name = none) :
    Reads name.toList [.identifier name] := by
  obtain ⟨start, whole⟩ := word
  refine .name start ?_
  cases place : name.toList with
  | nil =>
    rw [place] at start
    cases start
  | cons c cs =>
    rw [place] at start whole
    rw [token?_of_isSolid (isSolid_of_isNameStart start), tokenAt_of_isNameStart start, whole,
      ← place, String.ofList_toList, free, List.drop_length]
    rfl

theorem Reads.variableWord {name : String} (word : IsWord name) :
    Reads ('$' :: name.toList) [.variable name] := by
  obtain ⟨start, whole⟩ := word
  intro rest boundary
  have longer : Lexer.name (name.toList ++ rest) = name.toList := nameFrom_append whole boundary
  have starts : (name.toList ++ rest).head?.any isNameStart := by
    cases place : name.toList with
    | nil =>
      rw [place] at start
      cases start
    | cons c cs =>
      rw [place] at start
      exact start
  refine .single ?_
  rw [List.cons_append, token?_of_isSolid (by decide), tokenAt_dollar starts, longer,
    String.ofList_toList]
  simp

/-- Two joiners in a plain name make a token of it that is invalid. -/
theorem scans_doubled {name : String} (plain : isPlainName name)
    (doubled : joinersApart name.toList = false) (rest : List Char) :
    ∃ t reason mid, Scans (name.toList ++ rest) [t, .invalid reason] mid := by
  obtain ⟨start, each, _, _⟩ := plain_parts plain
  obtain ⟨front, a, b, after, split, joins, again, word⟩ := nameFrom_of_doubled each doubled rest
  rw [split] at start word ⊢
  have first : ∃ t, token? (front ++ a :: b :: after ++ rest) = some (t, a :: b :: after ++ rest) := by
    cases front with
    | nil =>
      -- A name does not begin with a joiner.
      have stop := not_isNameChar_of_isJoiner joins
      rw [isNameChar_of_isNameStart start] at stop
      cases stop
    | cons c front =>
      have char := isNameChar_of_isNameStart start
      rw [List.append_assoc] at word ⊢
      rw [List.cons_append] at word ⊢
      rw [token?_of_isSolid (isSolid_of_isNameStart start), tokenAt_of_isNameStart start,
        Lexer.name, nameFrom_cons char, ← nameFrom_cons char true, word]
      exact ⟨_, congrArg some (Prod.ext rfl List.drop_left)⟩
  obtain ⟨t, first⟩ := first
  have second : token? (a :: b :: after ++ rest) =
      some (.invalid (.unexpectedChar a), b :: after ++ rest) := by
    have solid : isSolid a := by rcases joiner_cases joins with rfl | rfl <;> decide
    have digit : b.isDigit = false := by rcases joiner_cases again with rfl | rfl <;> decide
    have lone (ds : List Char) : tokenAt a (b :: ds) = (.invalid (.unexpectedChar a), [a]) := by
      have colon : isNameStart ':' = false := by decide
      have dash : isNameStart '-' = false := by decide
      rcases joiner_cases joins with rfl | rfl
      · simp [tokenAt, punctuation?, digit, dash]
      · simp [tokenAt, punctuation?, colon]
    rw [List.cons_append, List.cons_append, token?_of_isSolid solid, lone]
    rfl
  exact ⟨t, _, _, .cons first (.single second)⟩

end Lexer

open Lexer

/-! ### Tokens as the lexer makes them -/

/-- Integers are within their range, and names are words. -/
def Token.Lexed : Token → Prop
  | .integer value => Number.minInteger ≤ value ∧ value ≤ Number.maxInteger
  | .identifier name => IsWord name ∧ keyword? name = none
  | .variable name => IsWord name
  | _ => True

namespace Lexer

theorem Body.lexed (b : Body) : b.token.Lexed := by
  unfold Body.token
  split <;> trivial

theorem Numeral.lexed (n : Numeral) : n.token.Lexed := by
  unfold Numeral.token
  dsimp only
  split
  · generalize (if n.negative then -(Number.digitsValue n.whole : Int)
      else (Number.digitsValue n.whole : Int)) = value
    split
    · next fits => simpa [Token.Lexed] using fits
    · trivial
  · trivial

theorem punctuation?_lexed {c : Char} {t : Token} (mark : punctuation? c = some t) : t.Lexed := by
  unfold punctuation? at mark
  split at mark <;> cases mark <;> trivial

theorem keyword?_lexed {word : String} {t : Token} (known : keyword? word = some t) : t.Lexed := by
  unfold keyword? at known
  split at known <;> cases known <;> trivial

theorem tokenAt_lexed (c : Char) (rest : List Char) : (tokenAt c rest).1.Lexed := by
  unfold tokenAt
  split
  · split
    · next start => exact isWord_ofList start
    · trivial
  · split
    · next mark => exact punctuation?_lexed mark
    · split
      · exact Body.lexed _
      · split
        · exact Numeral.lexed _
        · split
          · exact Numeral.lexed _
          · split
            · next start =>
              dsimp only
              cases found : keyword? (String.ofList (name (c :: rest))) with
              | none => exact ⟨isWord_ofList start, found⟩
              | some t => exact keyword?_lexed found
            · trivial

theorem lexed_of_token? {cs rest : List Char} {t : Token} (first : token? cs = some (t, rest)) :
    t.Lexed := by
  unfold token? at first
  split at first
  · cases first
  · cases first
    exact tokenAt_lexed _ _

theorem Scans.lexed {cs rest : List Char} {ts : List Token} (scans : Scans cs ts rest) :
    ∀ t ∈ ts, t.Lexed := by
  induction scans with
  | nil => simp
  | cons first _ ih => exact List.forall_mem_cons.mpr ⟨lexed_of_token? first, ih⟩

end Lexer

end Attest
