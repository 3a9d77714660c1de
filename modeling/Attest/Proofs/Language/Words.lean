import Attest.Proofs.Language.Characters
import Attest.Proofs.Language.Scanning
/-!
# Words

A word that stands alone reads as the same token before a boundary, so texts put together from
words are scanned word by word.
-/

namespace Attest

namespace Lexer

/-! ### Boundaries -/

/-- The characters that end any word. -/
def marks : List Char := [' ', ',', ';', '(', ')', '[', ']']

/-- What may follow a word: nothing, or a character that continues no word. A point continues a
number when a digit is next. -/
def Boundary (rest : List Char) : Prop :=
  ∀ c after, rest = c :: after → c ∈ marks ∨ c = '.' ∧ after.head?.any Char.isDigit = false

/-- The characters begin a boundary before whatever may follow a word. -/
def Opens (cs : List Char) : Prop :=
  ∀ rest, Boundary rest → Boundary (cs ++ rest)

theorem boundary_nil : Boundary [] := by
  intro c after impossible
  cases impossible

theorem boundary_cons {c : Char} (mark : c ∈ marks) (after : List Char) :
    Boundary (c :: after) := by
  intro d later same
  cases same
  exact .inl mark

namespace Boundary

variable {rest : List Char}

theorem head {c : Char} {after : List Char} (boundary : Boundary (c :: after)) :
    c ∈ '.' :: marks := by
  rcases boundary c after rfl with mark | ⟨rfl, _⟩
  · exact List.mem_cons_of_mem _ mark
  · exact List.mem_cons_self

theorem not_isDigit {c : Char} {after : List Char} (boundary : Boundary (c :: after)) :
    c.isDigit = false := by
  have separate : ('.' :: marks).all (!·.isDigit) := by decide
  simpa using List.all_eq_true.mp separate c boundary.head

theorem takeWhile_isDigit (boundary : Boundary rest) : rest.takeWhile Char.isDigit = [] := by
  cases rest with
  | nil => rfl
  | cons c after => simp [boundary.not_isDigit]

theorem dropWhile_isDigit (boundary : Boundary rest) : rest.dropWhile Char.isDigit = rest := by
  cases rest with
  | nil => rfl
  | cons c after => simp [boundary.not_isDigit]

theorem fraction_eq_nil (boundary : Boundary rest) : fraction rest = [] := by
  unfold fraction
  split
  · next after =>
    rcases boundary '.' after rfl with mark | ⟨_, stop⟩
    · exact absurd mark (by decide)
    · cases after with
      | nil => rfl
      | cons d later =>
        have stop : d.isDigit = false := stop
        simp [stop]
  · rfl

end Boundary

theorem opens_nil : Opens [] := fun _ boundary => boundary

theorem opens_cons {c : Char} (mark : c ∈ marks) (cs : List Char) : Opens (c :: cs) :=
  fun rest _ => boundary_cons mark (cs ++ rest)

theorem Opens.append {cs ds : List Char} (first : Opens cs) (later : Opens ds) :
    Opens (cs ++ ds) := by
  intro rest boundary
  rw [List.append_assoc]
  exact first _ (later rest boundary)

theorem opens_dot {cs : List Char} (start : cs.head?.any isNameStart) : Opens ('.' :: cs) := by
  intro rest _ c after same
  cases same
  refine .inr ⟨rfl, ?_⟩
  cases cs with
  | nil => cases start
  | cons d cs => exact not_isDigit_of_isNameStart start

/-! ### The first token -/

theorem trivia_of_isSolid {c : Char} (solid : isSolid c) (cs : List Char) :
    trivia false (c :: cs) = [] := by
  simp only [isSolid, Bool.and_eq_true, Bool.not_eq_true', bne_iff_ne] at solid
  obtain ⟨⟨blank, hash⟩, slash⟩ := solid
  have plain : startsComment (c :: cs) = false := by
    unfold startsComment
    split
    · next same => exact absurd (List.cons.inj same).1 hash
    · next same => exact absurd (List.cons.inj same).1 slash
    · rfl
  simp [trivia, blank, plain]

theorem token?_of_isSolid {c : Char} (solid : isSolid c) (cs : List Char) :
    token? (c :: cs) = some ((tokenAt c cs).1, (c :: cs).drop (tokenAt c cs).2.length) := by
  unfold token?
  simp only [trivia_of_isSolid solid cs, List.length_nil, List.drop_zero]

theorem token?_blank {c : Char} (blank : Unicode.isBlank c = true) (cs : List Char) :
    token? (c :: cs) = token? cs := by
  unfold token?
  simp [trivia, blank]

theorem token?_punctuation {c : Char} {t : Token} (mark : punctuation? c = some t)
    (cs : List Char) : token? (c :: cs) = some (t, cs) := by
  have place : c ∈ ['.', ',', ';', '=', '(', ')', '[', ']', '*'] := by
    unfold punctuation? at mark
    split at mark <;> first | decide | cases mark
  have plain :
      ['.', ',', ';', '=', '(', ')', '[', ']', '*'].all fun d => isSolid d && d != '$' := by
    decide
  have apart := List.all_eq_true.mp plain c place
  rw [Bool.and_eq_true, bne_iff_ne] at apart
  rw [token?_of_isSolid apart.1]
  simp [tokenAt, apart.2, mark]

/-- Characters with a token of their own, and those that begin variables, strings and negative
numbers. -/
def specials : List Char := ['$', '.', ',', ';', '=', '(', ')', '[', ']', '*', '"', '\'', '-']

theorem tokenAt_of_ordinary {c : Char} (ordinary : c ∉ specials) (rest : List Char) :
    tokenAt c rest =
      if c.isDigit then ((numeral false (c :: rest)).token, (numeral false (c :: rest)).text)
      else if isNameStart c then
        ((keyword? (String.ofList (name (c :: rest)))).getD
          (.identifier (String.ofList (name (c :: rest)))), name (c :: rest))
      else (.invalid (.unexpectedChar c), [c]) := by
  have mark : punctuation? c = none := by
    unfold punctuation?
    split <;> first | rfl | exact absurd (by decide) ordinary
  simp only [specials, List.mem_cons, not_or] at ordinary
  simp [tokenAt, ordinary, mark]

/-! ### Texts before boundaries -/

/-- The characters are scanned as the tokens before each boundary. -/
def Reads (cs : List Char) (ts : List Token) : Prop :=
  ∀ rest, Boundary rest → Scans (cs ++ rest) ts rest

namespace Reads

variable {cs ds : List Char} {ts us : List Token}

theorem nil : Reads [] [] := fun rest _ => .nil rest

theorem append (first : Reads cs ts) (opens : Opens ds) (later : Reads ds us) :
    Reads (cs ++ ds) (ts ++ us) := by
  intro rest boundary
  rw [List.append_assoc]
  exact (first _ (opens rest boundary)).append (later rest boundary)

theorem punctuation {c : Char} {t : Token} (mark : punctuation? c = some t) (later : Reads cs ts) :
    Reads (c :: cs) (t :: ts) :=
  fun rest boundary => .cons (token?_punctuation mark (cs ++ rest)) (later rest boundary)

theorem skip {c : Char} (blank : Unicode.isBlank c = true) (later : Reads cs ts)
    (nonempty : ts ≠ []) : Reads (c :: cs) ts := by
  intro rest boundary
  have scans := later rest boundary
  rw [List.cons_append]
  generalize cs ++ rest = ahead at scans ⊢
  cases scans with
  | nil => exact absurd rfl nonempty
  | cons first later => exact .cons ((token?_blank blank _).trans first) later

theorem blank (later : Reads cs ts) (nonempty : ts ≠ []) : Reads (' ' :: cs) ts :=
  later.skip (by decide) nonempty

end Reads

theorem eq_of_drop_length {cs text after : List Char} (split : cs = text ++ after)
    (covers : cs.drop text.length = []) : text = cs := by
  rw [split, List.drop_left] at covers
  rw [split, covers, List.append_nil]

theorem mem_of_token? {cs rest : List Char} {t : Token} (first : token? cs = some (t, rest)) :
    ∀ c ∈ rest, c ∈ cs := by
  intro c member
  unfold token? at first
  split at first
  · cases first
  · next split =>
    cases first
    have inside := List.mem_of_mem_drop member
    rw [← split] at inside
    exact List.mem_of_mem_drop inside

/-- A text without blanks that reads as one token is the text of the token. -/
theorem token?_of_readsAs {text : String} {t : Token} (solid : text.toList.all isSolid)
    (reads : ReadsAs text [t]) : token? text.toList = some (t, []) := by
  obtain ⟨rest, scans, done⟩ := readsAs_iff.mp reads
  cases scans with
  | cons first later =>
    cases later with
    | nil =>
      cases rest with
      | nil => exact first
      | cons c rest =>
        have inside := mem_of_token? first c List.mem_cons_self
        rw [token?_of_isSolid (List.all_eq_true.mp solid c inside)] at done
        cases done

/-! ### Names -/

theorem nameFrom_prefix (started : Bool) (cs : List Char) :
    ∃ after, cs = nameFrom started cs ++ after := by
  induction cs generalizing started with
  | nil => exact ⟨[], rfl⟩
  | cons c cs ih =>
    obtain ⟨after, split⟩ := ih true
    unfold nameFrom
    split
    · exact ⟨after, congrArg (c :: ·) split⟩
    · split
      · exact ⟨after, congrArg (c :: ·) split⟩
      · exact ⟨c :: cs, rfl⟩

theorem nameFrom_of_boundary {started : Bool} {rest : List Char} (boundary : Boundary rest) :
    nameFrom started rest = [] := by
  cases rest with
  | nil => rfl
  | cons c after =>
    have separate : ('.' :: marks).all fun d => !isNameChar d && !isJoiner d := by decide
    have apart := List.all_eq_true.mp separate c boundary.head
    simp only [Bool.and_eq_true, Bool.not_eq_true'] at apart
    simp [nameFrom, apart]

theorem nameFrom_append {started : Bool} {cs rest : List Char} (whole : nameFrom started cs = cs)
    (boundary : Boundary rest) : nameFrom started (cs ++ rest) = cs := by
  induction cs generalizing started with
  | nil => exact nameFrom_of_boundary boundary
  | cons c cs ih =>
    rw [List.cons_append]
    unfold nameFrom at whole ⊢
    split at whole
    · next char =>
      rw [if_pos char, ih (List.cons.inj whole).2]
    · next char =>
      split at whole
      · next join =>
        -- The character after the joiner belongs to the name, not to what follows it.
        have next : (cs ++ rest).head?.any isNameChar = cs.head?.any isNameChar := by
          cases cs with
          | nil => simp at join
          | cons d cs => rfl
        rw [if_neg char, next, if_pos join, ih (List.cons.inj whole).2]
      · cases whole

/-- The token of a name depends on the name alone. -/
theorem tokenAt_of_isNameStart {c : Char} (start : isNameStart c) (rest : List Char) :
    tokenAt c rest =
      ((keyword? (String.ofList (name (c :: rest)))).getD
        (.identifier (String.ofList (name (c :: rest)))), name (c :: rest)) := by
  have ordinary : c ∉ specials := by
    intro special
    have separate : specials.all (!isNameStart ·) := by decide
    have apart := List.all_eq_true.mp separate c special
    simp [start] at apart
  rw [tokenAt_of_ordinary ordinary]
  simp [not_isDigit_of_isNameStart start, start]

theorem keyword?_ne_identifier {word n : String} : keyword? word ≠ some (.identifier n) := by
  unfold keyword?
  split <;> nofun

/-- A name that is a token of its own is that token before a boundary. -/
theorem Reads.name {cs : List Char} {t : Token} (start : cs.head?.any isNameStart)
    (alone : token? cs = some (t, [])) : Reads cs [t] := by
  intro rest boundary
  cases cs with
  | nil => cases start
  | cons c cs =>
    have solid := isSolid_of_isNameStart start
    rw [token?_of_isSolid solid, tokenAt_of_isNameStart start] at alone
    obtain ⟨after, split⟩ := nameFrom_prefix false (c :: cs)
    simp only [Option.some.injEq, Prod.mk.injEq] at alone
    obtain ⟨token, covers⟩ := alone
    have whole : Lexer.name (c :: cs) = c :: cs := eq_of_drop_length split covers
    have longer : Lexer.name (c :: (cs ++ rest)) = c :: cs := nameFrom_append whole boundary
    refine .single ?_
    rw [List.cons_append, token?_of_isSolid solid, tokenAt_of_isNameStart start, longer, ← token,
      whole]
    simp

theorem Reads.identifier {n : String} (start : n.toList.head?.any isNameStart)
    (reads : ReadsAs n [.identifier n]) : Reads n.toList [.identifier n] := by
  obtain ⟨rest, scans, _⟩ := readsAs_iff.mp reads
  refine .name start ?_
  generalize place : n.toList = cs at start scans ⊢
  cases cs with
  | nil => cases start
  | cons c cs =>
    cases scans with
    | cons first _ =>
      rw [token?_of_isSolid (isSolid_of_isNameStart start), tokenAt_of_isNameStart start] at first ⊢
      simp only [Option.some.injEq, Prod.mk.injEq] at first ⊢
      obtain ⟨token, _⟩ := first
      refine ⟨token, ?_⟩
      cases word : keyword? (String.ofList (Lexer.name (c :: cs))) with
      | none =>
        rw [word, Option.getD_none, Token.identifier.injEq] at token
        have whole := congrArg String.toList token
        rw [String.toList_ofList, place] at whole
        rw [whole, List.drop_length]
      | some other =>
        rw [word, Option.getD_some] at token
        exact absurd (word.trans (congrArg some token)) keyword?_ne_identifier

theorem tokenAt_dollar {rest : List Char} (start : rest.head?.any isNameStart) :
    tokenAt '$' rest = (.variable (String.ofList (name rest)), '$' :: name rest) := by
  simp [tokenAt, start]

theorem Reads.variable {n : String} (reads : ReadsAs ("$" ++ n) [.variable n]) :
    Reads ('$' :: n.toList) [.variable n] := by
  obtain ⟨last, scans, _⟩ := readsAs_iff.mp reads
  rw [String.toList_append] at scans
  intro rest boundary
  have solid : isSolid '$' := by decide
  cases scans with
  | cons first _ =>
    rw [show "$".toList ++ n.toList = '$' :: n.toList from rfl, token?_of_isSolid solid] at first
    cases start : n.toList.head?.any isNameStart with
    | false => simp [tokenAt, start] at first
    | true =>
      rw [tokenAt_dollar start] at first
      simp only [Option.some.injEq, Prod.mk.injEq, Token.variable.injEq] at first
      have whole := congrArg String.toList first.1
      rw [String.toList_ofList] at whole
      have longer : Lexer.name (n.toList ++ rest) = n.toList := nameFrom_append whole boundary
      have starts : (n.toList ++ rest).head?.any isNameStart := by
        cases place : n.toList with
        | nil => rw [place] at start; cases start
        | cons c cs => rw [place] at start; exact start
      refine .single ?_
      rw [List.cons_append, token?_of_isSolid solid, tokenAt_dollar starts, longer]
      simp

/-- The sign of the root is no variable before a boundary. -/
theorem Reads.dollar : Reads ['$'] [.dollar] := by
  intro rest boundary
  have stop : rest.head?.any isNameStart = false := by
    cases rest with
    | nil => rfl
    | cons c rest =>
      have separate : ('.' :: marks).all (!isNameStart ·) := by decide
      simpa using List.all_eq_true.mp separate c boundary.head
  refine .single ?_
  rw [List.cons_append, token?_of_isSolid (by decide)]
  simp [tokenAt, stop]

end Lexer

end Attest
