import Attest.Xml.Event
/-!
# Pieces of markup

A piece of markup is read from its own characters, whatever stands behind it. A text is read piece
by piece, so what comes before a place and what comes after it can be read apart.
-/

namespace Attest.Xml

variable {closes : List Char → Bool} {before cs content rest : List Char} {quote : Option Char}
  {piece : Markup} {opened around : List String} {limit : Nat}

/-! ### Markup -/

/-- Reading takes characters, which it reads alike by themselves: it does not look at those it
leaves. -/
structure Local (read : List Char → Except MarkupFault (Markup × List Char)) : Prop where
  shrinks {cs rest : List Char} {piece : Markup} (found : read cs = .ok (piece, rest)) :
    rest.length < cs.length
  append {cs rest : List Char} {piece : Markup} (found : read cs = .ok (piece, rest))
    (more : List Char) : read (cs ++ more) = .ok (piece, rest ++ more)
  alone {cs rest : List Char} {piece : Markup} (found : read cs = .ok (piece, rest)) :
    ∃ text, cs = text ++ rest ∧ read text = .ok (piece, [])

theorem splitMarkup_shrinks (found : splitMarkup closes before cs = some (content, rest)) :
    rest.length < cs.length := by
  induction cs generalizing before with
  | nil => cases found
  | cons c cs ih =>
    rw [splitMarkup] at found
    split at found
    · cases found
      exact Nat.lt_succ_self _
    · exact Nat.lt_succ_of_lt (ih found)

theorem splitMarkup_append (found : splitMarkup closes before cs = some (content, rest))
    (more : List Char) : splitMarkup closes before (cs ++ more) = some (content, rest ++ more) := by
  induction cs generalizing before with
  | nil => cases found
  | cons c cs ih =>
    rw [splitMarkup] at found
    rw [List.cons_append, splitMarkup]
    split at found
    · next closed =>
      rw [if_pos closed]
      cases found
      rfl
    · next inside =>
      rw [if_neg inside]
      exact ih found

theorem splitMarkup_alone (found : splitMarkup closes before cs = some (content, rest)) :
    ∃ text, cs = text ++ rest ∧ splitMarkup closes before text = some (content, []) := by
  induction cs generalizing before with
  | nil => cases found
  | cons c cs ih =>
    rw [splitMarkup] at found
    split at found
    · next closed =>
      cases found
      exact ⟨[c], rfl, by rw [splitMarkup, if_pos closed]⟩
    · next inside =>
      obtain ⟨text, rfl, own⟩ := ih found
      exact ⟨c :: text, rfl, by rw [splitMarkup, if_neg inside, own]⟩

theorem splitTag_shrinks (found : splitTag quote cs = some (content, rest)) :
    rest.length < cs.length := by
  induction cs generalizing quote content with
  | nil => cases found
  | cons c cs ih =>
    cases quote with
    | none =>
      rw [splitTag] at found
      dsimp only at found
      split at found
      · cases found
        exact Nat.lt_succ_self _
      · obtain ⟨⟨tag, after⟩, inner, same⟩ := Option.map_eq_some_iff.mp found
        cases same
        exact Nat.lt_succ_of_lt (ih inner)
    | some q =>
      rw [splitTag] at found
      obtain ⟨⟨tag, after⟩, inner, same⟩ := Option.map_eq_some_iff.mp found
      cases same
      exact Nat.lt_succ_of_lt (ih inner)

theorem splitTag_append (found : splitTag quote cs = some (content, rest)) (more : List Char) :
    splitTag quote (cs ++ more) = some (content, rest ++ more) := by
  induction cs generalizing quote content with
  | nil => cases found
  | cons c cs ih =>
    cases quote with
    | none =>
      rw [splitTag] at found
      rw [List.cons_append, splitTag]
      dsimp only at found ⊢
      split at found
      · next closed =>
        rw [if_pos closed]
        cases found
        rfl
      · next inside =>
        rw [if_neg inside]
        obtain ⟨⟨tag, after⟩, inner, same⟩ := Option.map_eq_some_iff.mp found
        cases same
        rw [ih inner]
        rfl
    | some q =>
      rw [splitTag] at found
      rw [List.cons_append, splitTag]
      obtain ⟨⟨tag, after⟩, inner, same⟩ := Option.map_eq_some_iff.mp found
      cases same
      dsimp only
      rw [ih inner]
      rfl

theorem splitTag_alone (found : splitTag quote cs = some (content, rest)) :
    cs = content ++ '>' :: rest ∧ splitTag quote (content ++ ['>']) = some (content, []) := by
  induction cs generalizing quote content with
  | nil => cases found
  | cons c cs ih =>
    cases quote with
    | none =>
      rw [splitTag] at found
      dsimp only at found
      split at found
      · next closed =>
        rw [closed]
        cases found
        exact ⟨rfl, rfl⟩
      · next inside =>
        obtain ⟨⟨tag, after⟩, inner, same⟩ := Option.map_eq_some_iff.mp found
        cases same
        obtain ⟨rfl, own⟩ := ih inner
        refine ⟨rfl, ?_⟩
        rw [List.cons_append, splitTag]
        dsimp only
        rw [if_neg inside, own]
        rfl
    | some q =>
      rw [splitTag] at found
      obtain ⟨⟨tag, after⟩, inner, same⟩ := Option.map_eq_some_iff.mp found
      cases same
      obtain ⟨rfl, own⟩ := ih inner
      refine ⟨rfl, ?_⟩
      rw [List.cons_append, splitTag]
      dsimp only
      rw [own]
      rfl

/-- What is split off at a `>` is looked at by itself. -/
theorem local_of_split (split : List Char → Option (List Char × List Char))
    (judge : List Char → Except MarkupFault Markup) (unclosed : MarkupFault)
    {read : List Char → Except MarkupFault (Markup × List Char)}
    (same : ∀ cs, read cs = match split cs with
      | some (content, rest) => (judge content).map (·, rest)
      | none => .error unclosed)
    (shrinks : ∀ {cs content rest}, split cs = some (content, rest) → rest.length < cs.length)
    (append : ∀ {cs content rest}, split cs = some (content, rest) →
      ∀ more, split (cs ++ more) = some (content, rest ++ more))
    (alone : ∀ {cs content rest}, split cs = some (content, rest) →
      ∃ text, cs = text ++ rest ∧ split text = some (content, [])) : Local read := by
  have inside {cs rest : List Char} {piece : Markup} (found : read cs = .ok (piece, rest)) :
      ∃ content, split cs = some (content, rest) ∧ judge content = .ok piece := by
    rw [same] at found
    split at found
    · next content after parts =>
      cases judged : judge content with
      | error fault =>
        rw [judged] at found
        cases found
      | ok piece' =>
        rw [judged] at found
        cases found
        exact ⟨content, parts, judged⟩
    · cases found
  constructor
  · intro cs rest piece found
    obtain ⟨content, parts, _⟩ := inside found
    exact shrinks parts
  · intro cs rest piece found more
    obtain ⟨content, parts, judged⟩ := inside found
    rw [same, append parts more]
    dsimp only
    rw [judged]
    rfl
  · intro cs rest piece found
    obtain ⟨content, parts, judged⟩ := inside found
    obtain ⟨text, whole, own⟩ := alone parts
    refine ⟨text, whole, ?_⟩
    rw [same, own]
    dsimp only
    rw [judged]
    rfl

theorem local_of_splitMarkup (closes : List Char → Bool)
    (judge : List Char → Except MarkupFault Markup) (unclosed : MarkupFault)
    {read : List Char → Except MarkupFault (Markup × List Char)}
    (same : ∀ cs, read cs = match splitMarkup closes [] cs with
      | some (content, rest) => (judge content).map (·, rest)
      | none => .error unclosed) : Local read :=
  local_of_split _ judge unclosed same splitMarkup_shrinks splitMarkup_append splitMarkup_alone

theorem local_comment : Local comment := by
  refine local_of_splitMarkup closesComment (fun content =>
    if ['!', '-', '-'].isPrefixOf content then .ok .other else .error .commentUnclosed)
    .commentUnclosed fun cs => ?_
  unfold comment
  cases splitMarkup closesComment [] cs with
  | none => rfl
  | some parts =>
    dsimp only
    split
    · rfl
    · rfl

theorem local_characterData : Local characterData := by
  refine local_of_splitMarkup closesData (fun content =>
    if dataStart.isPrefixOf content then
      .ok (.data ((content.drop dataStart.length).dropLast.dropLast))
    else .error .dataUnclosed) .dataUnclosed fun cs => ?_
  unfold characterData
  cases splitMarkup closesData [] cs with
  | none => rfl
  | some parts =>
    dsimp only
    split
    · rfl
    · rfl

theorem local_doctype : Local doctype := by
  refine local_of_splitMarkup closesDoctype (fun content =>
    if !doctypeStart.isPrefixOf (content.map Char.toLower) then .error .doctypeUnclosed
    else if (content.drop doctypeStart.length).all isSpace then .error .doctypeName
    else .ok .other) .doctypeUnclosed fun cs => ?_
  unfold doctype
  cases splitMarkup closesDoctype [] cs with
  | none => rfl
  | some parts =>
    dsimp only
    split
    · rfl
    · split
      · rfl
      · rfl

theorem local_instruction : Local instruction := by
  refine local_of_splitMarkup closesInstruction (fun content =>
    if 1 < content.length then .ok .other else .error .instructionUnclosed)
    .instructionUnclosed fun cs => ?_
  unfold instruction
  cases splitMarkup closesInstruction [] cs with
  | none => rfl
  | some parts =>
    dsimp only
    split
    · rfl
    · rfl

theorem local_tag : Local tag := by
  refine local_of_split (splitTag none) (fun content => .ok (.ofTag content)) .tagUnclosed
    (fun cs => ?_) splitTag_shrinks splitTag_append fun found => ?_
  · unfold tag
    cases splitTag none cs with
    | none => rfl
    | some parts => rfl
  · obtain ⟨whole, own⟩ := splitTag_alone found
    exact ⟨_, by rw [whole, List.append_assoc]; rfl, own⟩

/-- What is read from the two characters that a text begins with takes both. -/
theorem Local.alone_of_two {read : List Char → Except MarkupFault (Markup × List Char)}
    (isLocal : Local read) {a b : Char} (found : read (a :: b :: cs) = .ok (piece, rest))
    (zero : (read []).isOk = false) (one : (read [a]).isOk = false) :
    ∃ text, a :: b :: cs = a :: b :: text ++ rest ∧ read (a :: b :: text) = .ok (piece, []) := by
  obtain ⟨text, whole, own⟩ := isLocal.alone found
  match text with
  | [] =>
    rw [own] at zero
    cases zero
  | [c] =>
    obtain ⟨rfl, _⟩ := List.cons.inj whole
    rw [own] at one
    cases one
  | c :: d :: text =>
    obtain ⟨rfl, later⟩ := List.cons.inj whole
    obtain ⟨rfl, _⟩ := List.cons.inj later
    exact ⟨text, whole, own⟩

/-- Two characters tell which kind of markup begins, and both belong to it. -/
theorem local_markup : Local markup := by
  constructor
  · intro cs rest piece found
    unfold markup at found
    split at found
    · exact local_characterData.shrinks found
    · exact local_comment.shrinks found
    · exact local_doctype.shrinks found
    · exact local_doctype.shrinks found
    · cases found
    · exact local_instruction.shrinks found
    · exact local_tag.shrinks found
  · intro cs rest piece found more
    unfold markup at found
    split at found
    · exact local_characterData.append found more
    · exact local_comment.append found more
    · exact local_doctype.append found more
    · exact local_doctype.append found more
    · cases found
    · exact local_instruction.append found more
    · next data comment doctype lower other instruction =>
      have whole := local_tag.append found more
      cases cs with
      | nil => cases found
      | cons c cs =>
        rw [List.cons_append] at whole ⊢
        rw [markup.eq_def]
        split
        all_goals simp_all
  · intro cs rest piece found
    unfold markup at found
    split at found
    · obtain ⟨text, whole, own⟩ := local_characterData.alone_of_two found rfl rfl
      exact ⟨_, whole, own⟩
    · obtain ⟨text, whole, own⟩ := local_comment.alone_of_two found rfl rfl
      exact ⟨_, whole, own⟩
    · obtain ⟨text, whole, own⟩ := local_doctype.alone_of_two found rfl rfl
      exact ⟨_, whole, own⟩
    · obtain ⟨text, whole, own⟩ := local_doctype.alone_of_two found rfl rfl
      exact ⟨_, whole, own⟩
    · cases found
    · obtain ⟨text, whole, own⟩ := local_instruction.alone found
      cases text with
      | nil => cases own
      | cons c text =>
        obtain ⟨rfl, _⟩ := List.cons.inj whole
        exact ⟨_, whole, own⟩
    · next data comment doctype lower other instruction =>
      obtain ⟨text, whole, own⟩ := local_tag.alone found
      refine ⟨text, whole, ?_⟩
      cases text with
      | nil => cases own
      | cons c text =>
        rw [markup.eq_def]
        split
        all_goals simp_all

/-! ### Comments -/

theorem splitMarkup_of_open {cs : List Char} (rest : List Char)
    (inside : ∀ front later, cs = front ++ '>' :: later → closes (front.reverse ++ before) = false)
    (closed : closes (cs.reverse ++ before)) :
    splitMarkup closes before (cs ++ '>' :: rest) = some ((cs.reverse ++ before).reverse, rest) := by
  induction cs generalizing before with
  | nil =>
    have closed : closes before := closed
    simp [splitMarkup, closed]
  | cons c cs ih =>
    have here : ¬ (c = '>' && closes before) := by
      intro both
      simp only [Bool.and_eq_true, decide_eq_true_eq] at both
      have still := inside [] cs (by rw [both.1]; rfl)
      rw [List.reverse_nil, List.nil_append, both.2] at still
      cases still
    rw [List.cons_append, splitMarkup, if_neg here]
    rw [ih ?_ ?_]
    · simp
    · intro front later same
      have still := inside (c :: front) later (by rw [same]; rfl)
      simpa using still
    · simpa using closed

/-- A comment with the characters inside it. -/
def commentOf (cs : List Char) : List Char :=
  '!' :: '-' :: '-' :: (cs ++ ['-', '-', '>'])

/-- Before the end of a comment there is a `>` that ends one only if its characters hold it. -/
theorem not_closesComment (inner : ¬ ['-', '-', '>'] <:+: cs) {front later : List Char}
    (same : ['!', '-', '-'] ++ (cs ++ ['-', '-']) = front ++ '>' :: later) :
    closesComment front.reverse = false := by
  refine Bool.eq_false_iff.mpr fun closed => inner ?_
  simp only [closesComment, Bool.and_eq_true, decide_eq_true_eq, List.isPrefixOf_iff_prefix] at closed
  obtain ⟨⟨tail, ends⟩, long⟩ := closed
  obtain ⟨outer, rfl⟩ : ∃ outer, front = outer ++ ['-', '-'] :=
    ⟨tail.reverse, by rw [← List.reverse_reverse front, ← ends]; simp⟩
  -- The two dashes are not those that begin the comment.
  obtain ⟨inside, rfl⟩ : ∃ inside, outer = ['!', '-', '-'] ++ inside := by
    rw [List.append_assoc] at same
    rcases List.append_eq_append_iff.mp same with ⟨inside, split, _⟩ | ⟨short, split, _⟩
    · exact ⟨inside, split⟩
    · have lengths := congrArg List.length split
      simp only [List.length_append, List.length_cons, List.length_nil, List.length_reverse]
        at lengths long
      obtain rfl : short = [] := List.eq_nil_of_length_eq_zero (by omega)
      exact ⟨[], by simpa using split.symm⟩
  have held : cs ++ ['-', '-'] = inside ++ (['-', '-', '>'] ++ later) := by
    simpa using same
  rcases List.append_eq_append_iff.mp held with ⟨more, _, short⟩ | ⟨more, split, rest⟩
  · have lengths := congrArg List.length short
    simp only [List.length_append, List.length_cons, List.length_nil] at lengths
    omega
  · match more with
    | [] => cases rest
    | [_] => cases rest
    | [_, _] => cases rest
    | a :: b :: c :: more =>
      refine ⟨inside, more, ?_⟩
      rw [split]
      cases rest
      simp

theorem markup_commentOf (inner : ¬ ['-', '-', '>'] <:+: cs) (rest : List Char) :
    markup (commentOf cs ++ rest) = .ok (.other, rest) := by
  have split : splitMarkup closesComment []
      (['!', '-', '-'] ++ (cs ++ ['-', '-']) ++ '>' :: rest) =
        some (['!', '-', '-'] ++ (cs ++ ['-', '-']), rest) := by
    rw [splitMarkup_of_open rest ?_ ?_]
    · rw [List.append_nil, List.reverse_reverse]
    · intro front later same
      rw [List.append_nil]
      exact not_closesComment inner same
    · simp [closesComment]
  have same : commentOf cs ++ rest = ['!', '-', '-'] ++ (cs ++ ['-', '-']) ++ '>' :: rest := by
    simp [commentOf]
  have read : comment (['!', '-', '-'] ++ (cs ++ ['-', '-']) ++ '>' :: rest) = .ok (.other, rest) := by
    rw [comment, split]
    rfl
  rw [same]
  exact read

namespace Events

/-! ### Texts without markup -/

variable {run : List Char}

theorem ne_of_plain (plain : '<' ∉ run) : ∀ c ∈ run, (c != '<') = true :=
  fun _ member => bne_iff_ne.mpr fun same => plain (same ▸ member)

theorem dropWhile_run (plain : '<' ∉ run) (after : List Char) :
    (run ++ '<' :: after).dropWhile (· != '<') = '<' :: after := by
  rw [List.dropWhile_append_of_pos (ne_of_plain plain)]
  rfl

theorem takeWhile_run (plain : '<' ∉ run) : run.takeWhile (· != '<') = run := by
  have whole : (run ++ []).takeWhile (· != '<') = run ++ [].takeWhile (· != '<') :=
    List.takeWhile_append_of_pos (ne_of_plain plain)
  rwa [List.append_nil, List.takeWhile_nil, List.append_nil] at whole

theorem ofText_append (plain : '<' ∉ run) (after : List Char) :
    ofText (run ++ '<' :: after) = ofText run := by
  have inner : '<' ∉ run.dropWhile isSpace :=
    fun member => plain ((List.dropWhile_sublist _).mem member)
  have ahead : ((run ++ '<' :: after).dropWhile isSpace).takeWhile (· != '<') =
      run.dropWhile isSpace := by
    rw [List.dropWhile_append]
    split
    · next blank =>
      rw [List.isEmpty_iff.mp blank]
      rfl
    · rw [List.takeWhile_append_of_pos (ne_of_plain inner)]
      exact List.append_nil _
  unfold ofText
  rw [ahead, takeWhile_run inner]

/-! ### Texts piece by piece -/

/-- What begins with the markup ahead, if there is any. -/
def markupAhead (opened : List String) (later : List String → List Char → Events) :
    List Char → Events
  | [] => ⟨[], none⟩
  | _ :: ahead =>
    match markup ahead with
    | .error fault => ⟨[], some fault⟩
    | .ok (piece, ahead) =>
      match step opened piece with
      | .error fault => ⟨[], some fault⟩
      | .ok (event, opened) => cons event (later opened ahead)

theorem scan_succ (opened : List String) (limit : Nat) (ahead : List Char) :
    scan opened (limit + 1) ahead = (ofText ahead).foldr cons
      (markupAhead opened (fun around => scan around limit) (ahead.dropWhile (· != '<'))) := rfl

theorem markupAhead_congr {later later' : List String → List Char → Events} {ahead : List Char}
    (same : ∀ around rest, rest.length < ahead.length → later around rest = later' around rest) :
    markupAhead opened later ahead = markupAhead opened later' ahead := by
  cases ahead with
  | nil => rfl
  | cons c ahead =>
    rw [markupAhead, markupAhead]
    cases found : markup ahead with
    | error fault => rfl
    | ok read =>
      obtain ⟨piece, rest⟩ := read
      dsimp only
      cases step opened piece with
      | error fault => rfl
      | ok read =>
        have shorter := local_markup.shrinks found
        dsimp only
        rw [same _ rest (Nat.lt_succ_of_lt shorter)]

/-- The events ahead, however many pieces of markup there are. -/
def all (opened : List String) (ahead : List Char) : Events :=
  scan opened (ahead.length + 1) ahead

/-- A limit beyond the characters ahead is none. -/
theorem scan_eq_all (opened : List String) {limit : Nat} {ahead : List Char}
    (enough : ahead.length < limit) : scan opened limit ahead = all opened ahead := by
  induction length : ahead.length using Nat.strongRecOn generalizing opened limit ahead with
  | ind n ih =>
    obtain ⟨limit, rfl⟩ := Nat.exists_eq_add_one_of_ne_zero (Nat.ne_zero_of_lt enough)
    have fewer : (ahead.dropWhile (· != '<')).length ≤ ahead.length :=
      (List.dropWhile_sublist _).length_le
    have onward : markupAhead opened (fun around => scan around limit)
        (ahead.dropWhile (· != '<')) = markupAhead opened (fun around => scan around ahead.length)
          (ahead.dropWhile (· != '<')) := by
      refine markupAhead_congr fun around rest shorter => ?_
      rw [ih rest.length (by omega) around (by omega) rfl,
        ih rest.length (by omega) around (by omega) rfl]
    rw [all, scan_succ, scan_succ, onward]

theorem all_eq (opened : List String) (ahead : List Char) :
    all opened ahead = (ofText ahead).foldr cons
      (markupAhead opened all (ahead.dropWhile (· != '<'))) := by
  have fewer : (ahead.dropWhile (· != '<')).length ≤ ahead.length :=
    (List.dropWhile_sublist _).length_le
  have onward : markupAhead opened (fun around => scan around ahead.length)
      (ahead.dropWhile (· != '<')) = markupAhead opened all (ahead.dropWhile (· != '<')) :=
    markupAhead_congr fun around rest shorter => scan_eq_all around (by omega)
  rw [all, scan_succ, onward]

theorem all_of_plain (opened : List String) (plain : '<' ∉ run) :
    all opened run = (ofText run).foldr cons ⟨[], none⟩ := by
  have passed : (run ++ []).dropWhile (· != '<') = [] :=
    List.dropWhile_append_of_pos (ne_of_plain plain)
  rw [List.append_nil] at passed
  rw [all_eq, passed]
  rfl

theorem all_append (opened : List String) (plain : '<' ∉ run) {after : List Char}
    (stops : after.head? = some '<') :
    all opened (run ++ after) = (ofText run).foldr cons (all opened after) := by
  obtain ⟨after, rfl⟩ := List.head?_eq_some_iff.mp stops
  have alone : ofText ('<' :: after) = [] := rfl
  rw [all_eq, all_eq opened ('<' :: after), ofText_append plain, dropWhile_run plain, alone]
  rfl

theorem all_markup {cs : List Char} {event : Event} (whole : markup cs = .ok (piece, []))
    (read : step opened piece = .ok (event, around)) (rest : List Char) :
    all opened ('<' :: (cs ++ rest)) = cons event (all around rest) := by
  have here := local_markup.append whole rest
  rw [all_eq]
  change markupAhead opened all ('<' :: (cs ++ rest)) = _
  rw [markupAhead, here, List.nil_append]
  dsimp only
  rw [read]

theorem all_commentOf {cs : List Char} (inner : ¬ ['-', '-', '>'] <:+: cs) (opened : List String)
    (rest : List Char) :
    all opened ('<' :: (commentOf cs ++ rest)) = cons .other (all opened rest) := by
  have whole := markup_commentOf inner []
  rw [List.append_nil] at whole
  exact all_markup whole rfl rest

end Events

end Attest.Xml
