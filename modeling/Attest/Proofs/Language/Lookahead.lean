import Attest.Proofs.Language.Texts
/-!
# Lookahead

Of what follows its text a token depends only on whether that would make it longer. So text up to a
semicolon is scanned as the same tokens whatever stands behind it.
-/

namespace Attest

/-- The token is a string without its closing quote. -/
def Token.IsUnterminated (t : Token) : Prop :=
  t = .invalid .endsInEscape ∨ t = .invalid .missingQuote

instance (t : Token) : Decidable t.IsUnterminated :=
  inferInstanceAs (Decidable (_ ∨ _))

namespace Lexer

/-- What follows second makes no text longer that what follows first leaves as it is, and makes no
comment of it. -/
structure StopsLike (after after' : List Char) : Prop where
  name : nameFrom true after = [] → nameFrom true after' = []
  start : after.head?.any isNameStart = false → after'.head?.any isNameStart = false
  digit : after.head?.any Char.isDigit = false → after'.head?.any Char.isDigit = false
  point : fraction after = [] → fraction after' = []
  slash : after.head? ≠ some '/' → after'.head? ≠ some '/'

theorem StopsLike.refl (after : List Char) : StopsLike after after :=
  ⟨id, id, id, id, id⟩

/-- No token that comes before goes on with the character, nor with another one that stands between
them. -/
structure Separates (c : Char) : Prop where
  name : isNameChar c = false
  joiner : isJoiner c = false
  digit : c.isDigit = false
  point : c ≠ '.'
  slash : c ≠ '/'

theorem separates_semicolon : Separates ';' where
  name := by decide
  joiner := by decide
  digit := by decide
  point := by decide
  slash := by decide

theorem separates_of_isBlank {c : Char} (blank : Unicode.isBlank c) : Separates c where
  name := not_isNameChar_of_isBlank blank
  joiner := by
    have minus : c ≠ '-' := ne_of_isBlank blank (by decide)
    have colon : c ≠ ':' := ne_of_isBlank blank (by decide)
    simp [isJoiner, minus, colon]
  digit := by
    cases digit : c.isDigit with
    | false => rfl
    | true => exact blank.symm.trans (Unicode.not_isBlank_of_isDigit digit)
  point := ne_of_isBlank blank (by decide)
  slash := ne_of_isBlank blank (by decide)

theorem Separates.stopsLike {c : Char} (separates : Separates c) (after rest : List Char) :
    StopsLike after (c :: rest) where
  name _ := by
    rw [nameFrom, separates.name, separates.joiner]
    rfl
  start _ := Bool.eq_false_iff.mpr fun start => by
    have char := isNameChar_of_isNameStart start
    exact Bool.false_ne_true (separates.name.symm.trans char)
  digit _ := separates.digit
  point _ := by
    unfold fraction
    split
    · next point => exact absurd (List.cons.inj point).1 separates.point
    · rfl
  slash _ := fun same => separates.slash (Option.some.inj same)

theorem stopsLike_of_two (a b : Char) (after after' : List Char) :
    StopsLike (a :: b :: after) (a :: b :: after') where
  name stops := by
    rw [nameFrom] at stops ⊢
    split at stops
    · cases stops
    · next plain =>
      split at stops
      · cases stops
      · next apart => rw [if_neg plain]; exact if_neg apart
  start stops := stops
  digit stops := stops
  point stops := by
    unfold fraction at stops ⊢
    split at stops
    · next point =>
      obtain ⟨rfl, rfl⟩ := List.cons.inj point
      have plain : b.isDigit = false := by
        cases digit : b.isDigit with
        | false => rfl
        | true =>
          rw [List.takeWhile_cons_of_pos digit] at stops
          cases stops
      exact List.takeWhile_cons_of_neg (by simp [plain])
    · next other =>
      split
      · next point =>
        obtain ⟨rfl, _⟩ := List.cons.inj point
        exact absurd rfl (other _)
      · rfl
  slash stops := stops

theorem Separates.stopsLike_behind {c : Char} (separates : Separates c) (a : Char)
    (after rest : List Char) : StopsLike (a :: after) (a :: c :: rest) where
  name stops := by
    rw [nameFrom] at stops ⊢
    split at stops
    · cases stops
    · next plain =>
      rw [if_neg plain, List.head?_cons, Option.any_some, separates.name, Bool.and_false]
      rfl
  start stops := stops
  digit stops := stops
  point _ := by
    unfold fraction
    split
    · next point =>
      obtain ⟨_, rfl⟩ := List.cons.inj point
      exact List.takeWhile_cons_of_neg (by simp [separates.digit])
    · rfl
  slash stops := stops

theorem Separates.stopsLike_append {c : Char} (separates : Separates c)
    (text after rest : List Char) : StopsLike (text ++ after) (text ++ c :: rest) := by
  cases text with
  | nil => exact separates.stopsLike after rest
  | cons a text =>
    cases text with
    | nil => exact separates.stopsLike_behind a after rest
    | cons b text => exact stopsLike_of_two a b _ _

/-! ### Words, numbers and strings -/

variable {c : Char} {text after after' : List Char}

theorem nameFrom_replace (stops : StopsLike after after')
    (whole : nameFrom true (text ++ after) = text) : nameFrom true (text ++ after') = text := by
  induction text with
  | nil => exact stops.name whole
  | cons c text ih =>
    rw [List.cons_append, nameFrom] at whole ⊢
    by_cases char : isNameChar c
    · rw [if_pos char] at whole ⊢
      rw [ih (List.cons.inj whole).2]
    · rw [if_neg char] at whole ⊢
      split at whole
      · next join =>
        have tail : nameFrom true (text ++ after) = text := (List.cons.inj whole).2
        have next : (text ++ after').head?.any isNameChar =
            (text ++ after).head?.any isNameChar := by
          cases text with
          | cons d text => rfl
          | nil =>
            -- The character behind a joiner belongs to the name.
            simp only [Bool.and_eq_true, List.nil_append] at join
            cases after with
            | nil => cases join.2
            | cons d after =>
              have char : isNameChar d := join.2
              rw [List.nil_append, nameFrom, if_pos char] at tail
              cases tail
        rw [next, if_pos join, ih tail]
      · cases whole

theorem name_replace (stops : StopsLike after after') (start : isNameStart c)
    (whole : name (c :: text ++ after) = c :: text) : name (c :: text ++ after') = c :: text := by
  have char := isNameChar_of_isNameStart start
  unfold name at whole ⊢
  rw [List.cons_append, nameFrom, if_pos char] at whole ⊢
  rw [nameFrom_replace stops (List.cons.inj whole).2]

theorem takeWhile_replace {ds : List Char} (digits : ∀ d ∈ ds, d.isDigit)
    (stops : after'.head?.any Char.isDigit = false) :
    (ds ++ after').takeWhile Char.isDigit = ds ∧
      (ds ++ after').dropWhile Char.isDigit = after' := by
  rw [List.takeWhile_append_of_pos digits, List.dropWhile_append_of_pos digits]
  cases after' with
  | nil => simp
  | cons d after' =>
    have plain : d.isDigit = false := stops
    simp [plain]

theorem head?_dropWhile (cs : List Char) :
    (cs.dropWhile Char.isDigit).head?.any Char.isDigit = false := by
  induction cs with
  | nil => rfl
  | cons c cs ih =>
    rw [List.dropWhile_cons]
    split
    · exact ih
    · next plain => simpa using plain

theorem numeral_replace (cs : List Char) (stops : StopsLike after after')
    (split : cs = (numeral false cs).text ++ after) (negative : Bool) :
    numeral negative ((numeral false cs).text ++ after') = numeral negative cs := by
  have parts : cs.takeWhile Char.isDigit ++ cs.dropWhile Char.isDigit = cs :=
    List.takeWhile_append_dropWhile
  have digits : ∀ d ∈ cs.takeWhile Char.isDigit, d.isDigit := List.all_eq_true.mp List.all_takeWhile
  have text : (numeral false cs).text = cs.takeWhile Char.isDigit ++
      (if (fraction (cs.dropWhile Char.isDigit)).isEmpty then []
        else '.' :: fraction (cs.dropWhile Char.isDigit)) := rfl
  have stops' := head?_dropWhile cs
  rw [text] at split ⊢
  unfold numeral
  generalize cs.takeWhile Char.isDigit = whole at parts digits split ⊢
  generalize cs.dropWhile Char.isDigit = left at parts stops' split ⊢
  rw [← parts, List.append_assoc] at split
  have behind := List.append_cancel_left split
  rw [List.append_assoc]
  by_cases noFraction : (fraction left).isEmpty
  · rw [if_pos noFraction, List.nil_append] at behind ⊢
    subst behind
    obtain ⟨same, left'⟩ := takeWhile_replace digits (stops.digit stops')
    have empty : fraction left = [] := List.isEmpty_iff.mp noFraction
    rw [same, left', stops.point empty, empty]
  · rw [if_neg noFraction] at behind ⊢
    have point : Char.isDigit '.' = false := by decide
    have stopped : ('.' :: fraction left ++ after').head?.any Char.isDigit = false := point
    obtain ⟨same, left'⟩ := takeWhile_replace digits stopped
    rw [same, left']
    congr 1
    unfold fraction at noFraction behind ⊢
    split at noFraction
    · next f =>
      have areDigits : ∀ d ∈ f.takeWhile Char.isDigit, d.isDigit :=
        List.all_eq_true.mp List.all_takeWhile
      have rest : f.dropWhile Char.isDigit = after := by
        have parts : f.takeWhile Char.isDigit ++ f.dropWhile Char.isDigit = f :=
          List.takeWhile_append_dropWhile
        have tails := (List.cons.inj behind).2
        exact List.append_cancel_left (parts.trans tails)
      have stopped := head?_dropWhile f
      rw [rest] at stopped
      exact (takeWhile_replace areDigits (stops.digit stopped)).1
    · exact absurd rfl noFraction

/-- The body of a string takes a character where there is one. -/
theorem body_text (quote e : Char) (rest : List Char) :
    ∃ more, (body quote (e :: rest)).text = e :: more := by
  cases rest with
  | nil =>
    rw [body]
    split
    · exact ⟨_, rfl⟩
    · split
      · exact ⟨_, rfl⟩
      · exact ⟨_, rfl⟩
  | cons f rest =>
    rw [body]
    split
    · exact ⟨_, rfl⟩
    · next other =>
      split
      · next backslash =>
        rw [backslash]
        dsimp only
        split
        · exact ⟨_, rfl⟩
        · exact ⟨_, rfl⟩
      · exact ⟨_, rfl⟩

theorem body_replace {quote : Char} {cs : List Char} (closed : (body quote cs).ending = .quote)
    (after : List Char) : body quote ((body quote cs).text ++ after) = body quote cs := by
  fun_induction body quote cs with
  | case1 => cases closed
  | case2 => cases after <;> simp [body]
  | case3 => cases closed
  | case4 => cases closed
  | case5 e rest => cases after <;> simp [body]
  | case6 e rest other _ d escape ih =>
    have whole := ih closed
    simp only [List.cons_append]
    rw [body, if_neg escape, if_pos rfl, d, whole]
  | case7 e rest _ bad escape ih =>
    have whole := ih closed
    simp only [List.cons_append]
    rw [body, if_neg escape, if_pos rfl, bad, whole]
  | case8 c e rest other plain _ ih =>
    have whole := ih closed
    obtain ⟨more, text⟩ := body_text quote e rest
    have next : body quote (c :: ((body quote (e :: rest)).text ++ after)) =
        { body quote (e :: rest) with
          value := c :: (body quote (e :: rest)).value
          text := c :: (body quote (e :: rest)).text } := by
      rw [text] at whole ⊢
      rw [List.cons_append] at whole ⊢
      rw [body, if_neg other, if_neg plain, whole]
      dsimp only
      rw [text]
    exact next

/-! ### Tokens -/

theorem variable_replace (stops : StopsLike after after')
    (whole : (tokenAt '$' (text ++ after)).2 = '$' :: text) :
    tokenAt '$' (text ++ after') = tokenAt '$' (text ++ after) := by
  unfold tokenAt at whole ⊢
  rw [if_pos rfl] at whole ⊢
  rw [if_pos rfl]
  split at whole
  · next start =>
    have word : name (text ++ after) = text := (List.cons.inj whole).2
    cases text with
    | nil =>
      -- A name that starts here has a character.
      rw [List.nil_append] at start word
      cases after with
      | nil => cases start
      | cons d after =>
        have char : isNameChar d := isNameChar_of_isNameStart start
        rw [name, nameFrom, if_pos char] at word
        cases word
    | cons d text =>
      have start' : (d :: text ++ after').head?.any isNameStart := start
      rw [if_pos start', if_pos start, name_replace stops start word, word]
  · next plain =>
    obtain rfl : [] = text := (List.cons.inj whole).2
    have plain' : ¬ after'.head?.any isNameStart := by
      rw [stops.start (Bool.eq_false_iff.mpr plain)]
      exact Bool.false_ne_true
    rw [if_neg plain]
    exact if_neg plain'

/-- What a token depends on is all there: if it ends the characters, it is no string that is still
to be closed. -/
def Settled (after : List Char) (t : Token) : Prop :=
  after = [] → ¬ t.IsUnterminated

theorem Settled.of_ne_nil {t : Token} (more : after ≠ []) : Settled after t :=
  fun empty => absurd empty more

theorem Body.ending_of_token (b : Body) (closed : ¬ b.token.IsUnterminated) :
    b.ending = .quote := by
  unfold Body.token at closed
  split at closed
  · exact absurd (.inl rfl) closed
  · exact absurd (.inr rfl) closed
  · assumption
  · assumption

theorem string_replace {quote : Char} (settled : Settled after (body quote (text ++ after)).token)
    (inside : (body quote (text ++ after)).text = text) :
    body quote (text ++ after') = body quote (text ++ after) := by
  obtain ⟨behind, split, unclosed⟩ := body_split quote (text ++ after)
  rw [inside] at split
  have same : after = behind := List.append_cancel_left split
  have closed : (body quote (text ++ after)).ending = .quote := by
    refine Decidable.byContradiction fun other => other ?_
    exact Body.ending_of_token _ (settled (same.trans (unclosed other)))
  have again := body_replace closed after'
  rwa [inside] at again

theorem minus_replace (stops : StopsLike after after')
    (whole : (tokenAt '-' (text ++ after)).2 = '-' :: text) :
    tokenAt '-' (text ++ after') = tokenAt '-' (text ++ after) := by
  by_cases digit : (text ++ after).head?.any Char.isDigit
  · rw [tokenAt_minus digit] at whole ⊢
    have inside : (numeral false (text ++ after)).text = text := (List.cons.inj whole).2
    have same := numeral_replace (text ++ after) stops (by rw [inside]) true
    rw [inside] at same
    cases text with
    | nil =>
      -- A numeral that starts here has a digit.
      rw [List.nil_append] at digit inside
      cases after with
      | nil => cases digit
      | cons d after =>
        have digit : d.isDigit := digit
        rw [numeral, Numeral.text, List.takeWhile_cons_of_pos digit] at inside
        cases inside
    | cons d text =>
      have digit' : (d :: text ++ after').head?.any Char.isDigit := digit
      rw [tokenAt_minus digit', same]
  · have alone {rest : List Char} (plain : ¬ rest.head?.any Char.isDigit) :
        tokenAt '-' rest = (.invalid (.unexpectedChar '-'), ['-']) := by
      have mark : punctuation? '-' = none := by decide
      have start : isNameStart '-' = false := by decide
      have digit : Char.isDigit '-' = false := by decide
      simp [tokenAt, mark, start, digit, plain]
    rw [alone digit] at whole ⊢
    obtain rfl : [] = text := (List.cons.inj whole).2
    refine alone ?_
    rw [List.nil_append, stops.digit (Bool.eq_false_iff.mpr digit)]
    exact Bool.false_ne_true

theorem token_replace (stops : StopsLike after after')
    (settled : Settled after (tokenAt c (text ++ after)).1)
    (whole : (tokenAt c (text ++ after)).2 = c :: text) :
    tokenAt c (text ++ after') = tokenAt c (text ++ after) := by
  by_cases dollar : c = '$'
  · subst dollar
    exact variable_replace stops whole
  by_cases minus : c = '-'
  · subst minus
    exact minus_replace stops whole
  unfold tokenAt at settled whole ⊢
  rw [if_neg dollar] at settled whole ⊢
  rw [if_neg dollar]
  simp only [minus, decide_false, Bool.false_and, Bool.false_eq_true, if_false] at settled whole ⊢
  split at whole
  · rfl
  next mark =>
  rw [mark] at settled
  split at whole
  · next quote =>
    have inside : (body c (text ++ after)).text = text := (List.cons.inj whole).2
    rw [if_pos quote] at settled
    rw [if_pos quote, if_pos quote, string_replace settled inside]
  next string =>
  rw [if_neg string, if_neg string]
  by_cases digit : c.isDigit
  · rw [if_pos digit] at whole ⊢
    rw [if_pos digit]
    have inside : (numeral false (c :: (text ++ after))).text = c :: text := whole
    have same := numeral_replace (c :: (text ++ after)) stops (by rw [inside]; rfl) false
    rw [inside, List.cons_append] at same
    rw [same]
  rw [if_neg digit] at whole ⊢
  rw [if_neg digit]
  by_cases start : isNameStart c
  · rw [if_pos start] at whole ⊢
    rw [if_pos start]
    have word : name (c :: text ++ after) = c :: text := whole
    have word' := name_replace stops start word
    rw [List.cons_append] at word word'
    rw [word, word']
  · rw [if_neg start, if_neg start]

theorem token?_append (text : List Char) {gap rest : List Char} {t : Token} (passed : Trivia gap)
    (solid : Unicode.isBlank c = false) (plain : startsComment (c :: text ++ rest) = false)
    (token : tokenAt c (text ++ rest) = (t, c :: text)) :
    token? (gap ++ (c :: text ++ rest)) = some (t, rest) := by
  rw [List.cons_append] at plain ⊢
  have stop : trivia false (c :: (text ++ rest)) = [] := by
    rw [trivia, if_neg (by decide), solid, if_neg (by decide), plain, if_neg (by decide)]
  rw [token?, passed.trivia_append, stop, List.append_nil, List.drop_left]
  simp only [token, Option.some.injEq, Prod.mk.injEq, true_and]
  rw [← List.cons_append, List.drop_left]

/-! ### Up to a semicolon -/

theorem startsComment_cons (c : Char) (cs : List Char) :
    startsComment (c :: cs) = true ↔ c = '#' ∨ c = '/' ∧ cs.head? = some '/' := by
  rw [startsComment_iff]
  constructor
  · rintro ⟨mark, marked, rest, split⟩
    simp only [commentMarks, List.mem_cons, List.not_mem_nil, or_false] at marked
    rcases marked with rfl | rfl
    · exact .inl (List.cons.inj split).1
    · obtain ⟨rfl, rfl⟩ := List.cons.inj split
      exact .inr ⟨rfl, rfl⟩
  · rintro (rfl | ⟨rfl, slash⟩)
    · exact ⟨['#'], by decide, cs, rfl⟩
    · obtain ⟨rest, rfl⟩ := List.head?_eq_some_iff.mp slash
      exact ⟨['/', '/'], by decide, rest, rfl⟩

/-- A token is the same before all that stops like the rest, unless it is a string that the rest
could still close. -/
theorem token?_replace {cs after : List Char} {t : Token} (stops : StopsLike after after')
    (settled : Settled after t) (found : token? (cs ++ after) = some (t, after)) :
    token? (cs ++ after') = some (t, after') := by
  obtain ⟨gap, c, text, behind, split, passed, solid, starts, whole, token⟩ := token?_eq_some found
  have parts : cs = gap ++ (c :: text) := by
    have same : cs ++ after = gap ++ (c :: text) ++ after := by rw [split, whole, List.append_assoc]
    exact List.append_cancel_right same
  obtain rfl : behind = text ++ after := (List.cons.inj whole).2
  have token' : tokenAt c (text ++ after') = (t, c :: text) := by
    have here : Settled after (tokenAt c (text ++ after)).1 := by rwa [token]
    rw [token_replace stops here (congrArg Prod.snd token), token]
  have starts' : startsComment (c :: text ++ after') = false := by
    refine Bool.eq_false_iff.mpr ?_
    have starts := Bool.eq_false_iff.mp starts
    rw [Ne, startsComment_cons, not_or, not_and] at starts
    rw [List.cons_append, Ne, startsComment_cons, not_or, not_and]
    refine ⟨starts.1, fun slash => ?_⟩
    cases text with
    | cons d text => exact starts.2 slash
    | nil => exact stops.slash (starts.2 slash)
  rw [parts, List.append_assoc]
  exact token?_append text passed solid starts' token'

theorem punctuation?_semicolon {c : Char} (mark : punctuation? c = some .semicolon) : c = ';' := by
  unfold punctuation? at mark
  split at mark
  case h_3 => rfl
  all_goals cases mark

theorem Body.token_ne_semicolon (b : Body) : b.token ≠ .semicolon := by
  unfold Body.token
  split <;> nofun

theorem Numeral.token_ne_semicolon (n : Numeral) : n.token ≠ .semicolon := by
  unfold Numeral.token
  dsimp only
  repeat' split
  all_goals nofun

theorem keyword?_ne_semicolon {word : String} : keyword? word ≠ some .semicolon := by
  unfold keyword?
  split <;> nofun

theorem mark_of_semicolon {after : List Char} (token : (tokenAt c after).1 = .semicolon) :
    c = ';' := by
  unfold tokenAt at token
  split at token
  · split at token
    · cases token
    · cases token
  split at token
  · next mark => exact punctuation?_semicolon (mark.trans (congrArg some token))
  split at token
  · exact absurd token (Body.token_ne_semicolon _)
  split at token
  · exact absurd token (Numeral.token_ne_semicolon _)
  split at token
  · exact absurd token (Numeral.token_ne_semicolon _)
  split at token
  · dsimp only at token
    cases word : keyword? (String.ofList (name (c :: after))) with
    | none =>
      rw [word] at token
      cases token
    | some t =>
      rw [word] at token
      exact absurd (word.trans (congrArg some token)) keyword?_ne_semicolon
  · cases token

theorem token?_semicolon {gap : List Char} (passed : Trivia gap) (rest : List Char) :
    token? (gap ++ ';' :: rest) = some (.semicolon, rest) := by
  have solid : Unicode.isBlank ';' = false := by decide
  exact token?_append [] passed solid rfl rfl

theorem token?_eq_semicolon {cs rest : List Char} (found : token? cs = some (.semicolon, rest)) :
    ∃ gap, Trivia gap ∧ cs = gap ++ ';' :: rest := by
  obtain ⟨gap, c, more, after, split, passed, _, _, whole, token⟩ := token?_eq_some found
  obtain rfl := mark_of_semicolon (congrArg Prod.fst token)
  have same : (Token.semicolon, ';' :: more) = (.semicolon, [';']) := token.symm
  obtain rfl : more = [] := (List.cons.inj (Prod.mk.inj same).2).2
  refine ⟨gap, passed, ?_⟩
  rw [split, whole]
  rfl

namespace Scans

variable {cs rest : List Char} {ts : List Token}

theorem suffix (scans : Scans cs ts rest) : ∃ text, cs = text ++ rest := by
  induction scans with
  | nil cs => exact ⟨[], rfl⟩
  | cons first _ ih =>
    obtain ⟨gap, c, more, after, split, _, _, _, whole, _⟩ := token?_eq_some first
    obtain ⟨text, same⟩ := ih
    refine ⟨gap ++ (c :: more) ++ text, ?_⟩
    rw [split, whole, same]
    simp only [List.append_assoc]

theorem ends_semicolon (scans : Scans cs ts rest) (ends : ts.getLast? = some .semicolon) :
    ∃ text, cs = text ++ ';' :: rest := by
  induction scans with
  | nil => cases ends
  | @cons cs mid rest t ts first later ih =>
    cases ts with
    | nil =>
      cases later
      obtain rfl : t = .semicolon := Option.some.inj ends
      obtain ⟨gap, _, split⟩ := token?_eq_semicolon first
      exact ⟨gap, split⟩
    | cons u us =>
      obtain ⟨text, same⟩ := ih (List.getLast?_cons_cons.symm.trans ends)
      obtain ⟨before, split⟩ := (single first).suffix
      exact ⟨before ++ text, by rw [split, same, List.append_assoc]⟩

end Scans

/-- Text up to a semicolon is scanned as the same tokens whatever stands behind it. -/
theorem Scans.replace {text rest : List Char} {ts : List Token} (scans : Scans (text ++ rest) ts rest)
    (ends : ts.getLast? = some .semicolon) (rest' : List Char) : Scans (text ++ rest') ts rest' := by
  generalize split : text ++ rest = cs at scans
  induction scans generalizing text with
  | nil => cases ends
  | @cons cs mid rest t ts first later ih =>
    subst split
    cases ts with
    | nil =>
      cases later
      obtain rfl : t = .semicolon := Option.some.inj ends
      obtain ⟨gap, passed, split⟩ := token?_eq_semicolon first
      obtain rfl : text = gap ++ [';'] := by
        rw [← List.singleton_append, ← List.append_assoc] at split
        exact List.append_cancel_right split
      refine .single ?_
      rw [List.append_assoc]
      exact token?_semicolon passed rest'
    | cons u us =>
      have last : (u :: us).getLast? = some .semicolon := List.getLast?_cons_cons.symm.trans ends
      obtain ⟨inner, same⟩ := later.ends_semicolon last
      obtain ⟨before, split⟩ := (single first).suffix
      obtain rfl : text = before ++ (inner ++ [';']) := by
        have whole : text ++ rest = before ++ (inner ++ [';']) ++ rest := by
          rw [split, same]
          simp only [List.append_assoc, List.singleton_append]
        exact List.append_cancel_right whole
      have onward : inner ++ [';'] ++ rest = mid := by
        rw [same, List.append_assoc, List.singleton_append]
      have stops : StopsLike mid (inner ++ [';'] ++ rest') := by
        rw [same, List.append_assoc, List.singleton_append]
        exact separates_semicolon.stopsLike_append inner _ rest'
      have first' := token?_replace stops (.of_ne_nil (by rw [same]; simp)) (split ▸ first)
      rw [List.append_assoc]
      exact .cons first' (ih last onward)

end Lexer

end Attest
