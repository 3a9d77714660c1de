import Attest.Proofs.Document.Comments
/-!
# Tags in a text

A start tag, an empty tag and an end tag are each read from their own characters. Every event that
is not text comes from a place in the text up to which the events before it are read.
-/

namespace Attest

namespace Xml

variable {quote : Option Char} {text cs content rest ahead before : List Char}
  {opened : List String} {piece : Markup} {event : Event} {events earlier later : List Event}

/-! ### Tags -/

/-- The name that begins a tag. -/
def tagName (content : List Char) : List Char :=
  content.takeWhile fun c => !isSpace c

/-- What can stand in a start tag as well as in an empty one: neither quotes nor a slash are left
over at its end, and an end tag can repeat its name. -/
structure IsTag (content : List Char) : Prop where
  first : ∃ c more, content = c :: more ∧ c ∉ ['!', '?', '/']
  whole : splitTag none (content ++ ['>']) = some (content, [])
  last : content.getLast? ≠ some '/'
  named : ∀ c ∈ tagName content, c ≠ '"' ∧ c ≠ '\''

theorem map_cons_eq_some_iff {c : Char} {split : Option (List Char × List Char)} :
    split.map (fun (tag, after) => (c :: tag, after)) = some (c :: content, rest) ↔
      split = some (content, rest) := by
  simp

/-- A slash at the end of a tag is within quotes just if the end of the tag is. -/
theorem splitTag_slash (mark : quote ≠ some '/') :
    splitTag quote (content ++ ['/', '>']) = some (content ++ ['/'], []) ↔
      splitTag quote (content ++ ['>']) = some (content, []) := by
  induction content generalizing quote with
  | nil =>
    cases quote with
    | none => exact iff_of_true rfl rfl
    | some q =>
      have other : '/' ≠ q := fun same => mark (by rw [same])
      simp [splitTag, other]
  | cons c content ih =>
    cases quote with
    | none =>
      simp only [List.cons_append, splitTag]
      by_cases closed : c = '>'
      · simp [closed]
      · rw [if_neg closed, if_neg closed, map_cons_eq_some_iff, map_cons_eq_some_iff]
        refine ih ?_
        split
        · next quoted =>
          intro same
          rw [Option.some.inj same] at quoted
          exact absurd quoted (by decide)
        · exact (Option.some_ne_none '/').symm
    | some q =>
      simp only [List.cons_append, splitTag]
      rw [map_cons_eq_some_iff, map_cons_eq_some_iff]
      refine ih ?_
      split
      · exact (Option.some_ne_none '/').symm
      · exact mark

/-- Characters that no quote is among stand outside of quotes. -/
theorem splitTag_plain (whole : splitTag none (cs ++ rest) = some (cs ++ content, []))
    (plain : ∀ c ∈ cs, c ≠ '"' ∧ c ≠ '\'') : splitTag none (cs ++ ['>']) = some (cs, []) := by
  induction cs with
  | nil => rfl
  | cons c cs ih =>
    obtain ⟨⟨double, single⟩, later⟩ := List.forall_mem_cons.mp plain
    rw [List.cons_append, splitTag] at whole
    rw [List.cons_append, splitTag]
    dsimp only at whole ⊢
    split at whole
    · cases whole
    · next inside =>
      have unquoted : (if c = '"' || c = '\'' then some c else none) = none := by
        simp [double, single]
      rw [unquoted] at whole ⊢
      obtain ⟨⟨tag, after⟩, inner, same⟩ := Option.map_eq_some_iff.mp whole
      cases same
      rw [if_neg inside, ih inner later]
      rfl

theorem markup_eq_tag {c : Char} (first : c ∉ ['!', '?', '/']) (cs : List Char) :
    markup (c :: cs) = tag (c :: cs) := by
  simp only [List.mem_cons, List.not_mem_nil, or_false, not_or] at first
  rw [markup.eq_def]
  split
  all_goals simp_all

theorem Events.all_endTag {name : List Char}
    (ends : markup ('/' :: (name ++ ['>'])) = .ok (.closing name, [])) (opened : List String)
    (rest : List Char) :
    all (String.ofList name :: opened) ('<' :: ('/' :: (name ++ ['>']) ++ rest)) =
      cons .closing (all opened rest) := by
  have closes : step (String.ofList name :: opened) (.closing name) = .ok (.closing, opened) :=
    if_pos rfl
  exact all_markup ends closes rest

namespace IsTag

theorem markup_start (isTag : IsTag content) :
    markup (content ++ ['>']) = .ok (.opening content, []) := by
  obtain ⟨c, more, rfl, first⟩ := isTag.first
  have noSlash : c ≠ '/' := fun same => first (by simp [same])
  rw [List.cons_append, markup_eq_tag first, ← List.cons_append, tag, isTag.whole]
  dsimp only
  rw [Markup.ofTag, if_neg isTag.last]
  intro name same
  exact noSlash (List.cons.inj same).1

theorem markup_empty (isTag : IsTag content) :
    markup (content ++ ['/', '>']) = .ok (.empty content, []) := by
  have unquoted : (none : Option Char) ≠ some '/' := nofun
  have split := (splitTag_slash unquoted).mpr isTag.whole
  obtain ⟨c, more, rfl, first⟩ := isTag.first
  have noSlash : c ≠ '/' := fun same => first (by simp [same])
  rw [List.cons_append, markup_eq_tag first, ← List.cons_append, tag, split]
  dsimp only
  have slash : (c :: more ++ ['/']).getLast? = some '/' := List.getLast?_concat
  rw [Markup.ofTag, if_pos slash, List.dropLast_concat]
  intro name same
  exact noSlash (List.cons.inj same).1

theorem trimEnd_tagName (content : List Char) : trimEnd (tagName content) = tagName content := by
  have noSpace : ∀ c ∈ (tagName content).reverse, isSpace c = false := by
    intro c member
    have inside : c ∈ tagName content := List.mem_reverse.mp member
    simpa using List.all_eq_true.mp List.all_takeWhile c inside
  have kept : (tagName content).reverse.dropWhile isSpace = (tagName content).reverse := by
    cases letters : (tagName content).reverse with
    | nil => rfl
    | cons c cs =>
      have solid : isSpace c = false := noSpace c (by rw [letters]; exact List.mem_cons_self)
      exact List.dropWhile_cons_of_neg (by simp [solid])
  rw [trimEnd, kept, List.reverse_reverse]

theorem markup_end (isTag : IsTag content) :
    markup ('/' :: (tagName content ++ ['>'])) = .ok (.closing (tagName content), []) := by
  have parts : tagName content ++ content.dropWhile (fun c => !isSpace c) = content :=
    List.takeWhile_append_dropWhile
  have whole := isTag.whole
  rw [← parts, List.append_assoc] at whole
  have split : splitTag none (tagName content ++ ['>']) = some (tagName content, []) :=
    splitTag_plain whole isTag.named
  have slash : splitTag none ('/' :: (tagName content ++ ['>'])) =
      some ('/' :: tagName content, []) := by
    rw [splitTag]
    simp [split]
  change tag ('/' :: (tagName content ++ ['>'])) = _
  rw [tag, slash]
  dsimp only
  rw [Markup.ofTag, trimEnd_tagName]

theorem all_emptyTag (isTag : IsTag content) (opened : List String) (rest : List Char) :
    Events.all opened ('<' :: (content ++ ['/', '>'] ++ rest)) =
      Events.cons (.empty (Tag.ofContent content)) (Events.all opened rest) :=
  Events.all_markup isTag.markup_empty rfl rest

/-- Between the two tags there is no text. -/
theorem all_twoTags (isTag : IsTag content) (opened : List String) (rest : List Char) :
    Events.all opened ('<' :: (content ++ ['>'] ++
        '<' :: ('/' :: (tagName content ++ ['>']) ++ rest))) =
      Events.cons (.opening (Tag.ofContent content))
        (Events.cons .closing (Events.all opened rest)) := by
  have opens : Events.step opened (.opening content) =
      .ok (.opening (Tag.ofContent content), String.ofList (tagName content) :: opened) := rfl
  rw [Events.all_markup isTag.markup_start opens, Events.all_endTag isTag.markup_end]

end IsTag

/-! ### Characters of a tag -/

/-- What begins or ends an element is read as a tag, which begins with no other mark. -/
theorem tag_of_markup (found : markup cs = .ok (piece, rest)) (solid : piece ≠ .other)
    (noData : ∀ text, piece ≠ .data text) :
    tag cs = .ok (piece, rest) ∧ ∀ c more, cs = c :: more → c ≠ '!' ∧ c ≠ '?' := by
  unfold markup at found
  split at found
  · grind [characterData]
  · grind [comment]
  · grind [doctype]
  · grind [doctype]
  · cases found
  · grind [instruction]
  · next bang instruction =>
    refine ⟨found, ?_⟩
    rintro c more rfl
    exact ⟨fun same => bang more (by rw [same]), fun same => instruction more (by rw [same])⟩

theorem eq_of_ofTag_empty {text : List Char} (read : Markup.ofTag text = .empty content) :
    text = content ++ ['/'] ∧ ∀ name, text ≠ '/' :: name := by
  unfold Markup.ofTag at read
  split at read
  · cases read
  · next noSlash =>
    split at read
    · next last =>
      cases read
      exact ⟨(List.dropLast_append_getLast? '/' last).symm, fun name same => noSlash name same⟩
    · cases read

theorem eq_of_ofTag_opening {text : List Char} (read : Markup.ofTag text = .opening content) :
    text = content ∧ content.getLast? ≠ some '/' ∧ ∀ name, text ≠ '/' :: name := by
  unfold Markup.ofTag at read
  split at read
  · cases read
  · next noSlash =>
    split at read
    · cases read
    · next last =>
      cases read
      exact ⟨rfl, last, fun name same => noSlash name same⟩

section

variable (named : ∀ c ∈ tagName content, c ≠ '"' ∧ c ≠ '\'')
include named

theorem isTag_of_parts {text : List Char} (parts : text = content ++ ['/'] ∨ text = content)
    (nonempty : content ≠ []) (noSlash : ∀ name, text ≠ '/' :: name)
    (noMark : ∀ c more, text ++ ['>'] = c :: more → c ≠ '!' ∧ c ≠ '?')
    (whole : splitTag none (content ++ ['>']) = .some (content, []))
    (last : content.getLast? ≠ .some '/') : IsTag content := by
  obtain ⟨c, more, rfl⟩ := List.exists_cons_of_ne_nil nonempty
  refine ⟨⟨c, more, rfl, ?_⟩, whole, last, named⟩
  obtain ⟨later, rfl⟩ : ∃ later, text = c :: later := by
    rcases parts with rfl | rfl
    · exact ⟨_, rfl⟩
    · exact ⟨_, rfl⟩
  obtain ⟨bang, question⟩ := noMark c _ rfl
  have slash : c ≠ '/' := fun same => noSlash later (by rw [same])
  simp [bang, question, slash]

/-- The text of an empty tag. -/
theorem isTag_of_empty (found : markup cs = .ok (.empty content, []))
    (last : content.getLast? ≠ some '/') : cs = content ++ ['/', '>'] ∧ IsTag content := by
  obtain ⟨read, noMark⟩ := tag_of_markup found nofun nofun
  rw [tag] at read
  split at read
  · next text rest parts =>
    obtain ⟨piece, rfl⟩ := Prod.mk.inj (Except.ok.inj read)
    obtain ⟨rfl, own⟩ := splitTag_alone parts
    obtain ⟨rfl, noSlash⟩ := eq_of_ofTag_empty piece
    have unquoted : (none : Option Char) ≠ some '/' := nofun
    rw [List.append_assoc] at own
    have whole := (splitTag_slash unquoted).mp own
    have nonempty : content ≠ [] := by
      rintro rfl
      exact noSlash [] rfl
    exact ⟨by simp, isTag_of_parts named (.inl rfl) nonempty noSlash noMark whole last⟩
  · cases read

/-- The text of a start tag. -/
theorem isTag_of_opening (found : markup cs = .ok (.opening content, []))
    (nonempty : content ≠ []) :
    cs = content ++ ['>'] ∧ IsTag content := by
  obtain ⟨read, noMark⟩ := tag_of_markup found nofun nofun
  rw [tag] at read
  split at read
  · next text rest parts =>
    obtain ⟨piece, rfl⟩ := Prod.mk.inj (Except.ok.inj read)
    obtain ⟨rfl, own⟩ := splitTag_alone parts
    obtain ⟨rfl, last, noSlash⟩ := eq_of_ofTag_opening piece
    exact ⟨rfl, isTag_of_parts named (.inr rfl) nonempty noSlash noMark own last⟩
  · cases read

end

/-! ### Places of events -/

/-- The place in a text of the markup that an event is read from, behind other events. -/
structure Origin (text : List Char) (earlier : List Event) (event : Event) where
  before : List Char
  left : List Char
  cs : List Char
  rest : List Char
  opened : List String
  beyond : List String
  events : List Event
  piece : Markup
  split : text = before ++ (left ++ '<' :: (cs ++ rest))
  within : Within opened before events
  plain : '<' ∉ left
  earlier_eq : earlier = events ++ Events.ofText left
  whole : markup cs = .ok (piece, [])
  read : Events.step opened piece = .ok (event, beyond)

theorem not_mem_ofText (noText : ∀ content, event ≠ .text content) (ahead : List Char) :
    event ∉ Events.ofText ahead := by
  intro member
  unfold Events.ofText at member
  split at member
  · cases member
  · exact absurd (List.mem_singleton.mp member) (noText _)

/-- An event that is not text comes behind the text. -/
theorem eq_ofText_append {left : List Char} {list : List Event}
    (noText : ∀ content, event ≠ .text content)
    (split : Events.ofText left ++ list = earlier ++ event :: later) :
    ∃ early, earlier = Events.ofText left ++ early ∧ list = early ++ event :: later := by
  rcases List.append_eq_append_iff.mp split with ⟨early, same, onward⟩ | ⟨between, same, onward⟩
  · exact ⟨early, same, onward⟩
  · cases between with
    | nil => exact ⟨[], by simpa using same.symm, onward.symm⟩
    | cons first between =>
      obtain ⟨rfl, _⟩ := List.cons.inj onward
      refine absurd ?_ (not_mem_ofText noText left)
      rw [same]
      exact List.mem_append_right _ List.mem_cons_self

/-- The events of markup ahead are those of the first piece and those behind it. -/
theorem list_all_markup (nonempty : (Events.all opened ('<' :: ahead)).list ≠ []) :
    ∃ cs rest piece first around, ahead = cs ++ rest ∧ markup cs = .ok (piece, []) ∧
      Events.step opened piece = .ok (first, around) ∧
      (Events.all opened ('<' :: ahead)).list = first :: (Events.all around rest).list := by
  have listed : (Events.all opened ('<' :: ahead)).list =
      (Events.markupAhead opened Events.all ('<' :: ahead)).list := by
    rw [Events.all_eq, Events.list_foldr_cons]
    rfl
  rw [listed, Events.markupAhead] at nonempty ⊢
  cases found : markup ahead with
  | error fault =>
    rw [found] at nonempty
    exact absurd rfl nonempty
  | ok pair =>
    obtain ⟨piece, rest⟩ := pair
    rw [found] at nonempty
    dsimp only at nonempty ⊢
    cases read : Events.step opened piece with
    | error fault =>
      rw [read] at nonempty
      exact absurd rfl nonempty
    | ok pair =>
      obtain ⟨cs, whole, alone⟩ := local_markup.alone found
      exact ⟨cs, rest, piece, pair.1, pair.2, whole, alone, read, rfl⟩

/-- Behind what was read there is a place for each event that is not text. -/
theorem Within.exists_origin (within : Within opened before events)
    (split : (Events.all opened ahead).list = earlier ++ event :: later)
    (noText : ∀ content, event ≠ .text content) :
    Nonempty (Origin (before ++ ahead) (events ++ earlier) event) := by
  induction length : ahead.length using Nat.strongRecOn
    generalizing opened before events ahead earlier with
  | ind n ih =>
    by_cases markup : '<' ∈ ahead
    · obtain ⟨left, after, rfl, plain⟩ := List.eq_append_cons_of_mem markup
      rw [Events.all_append opened plain rfl, Events.list_foldr_cons] at split
      obtain ⟨early, rfl, remains⟩ := eq_ofText_append noText split
      have nonempty : (Events.all opened ('<' :: after)).list ≠ [] := by
        rw [remains]
        exact List.append_ne_nil_of_right_ne_nil _ (List.cons_ne_nil _ _)
      obtain ⟨cs, rest, piece, first, around, rfl, whole, read, listed⟩ := list_all_markup nonempty
      rw [listed] at remains
      cases early with
      | nil =>
        obtain ⟨rfl, _⟩ := List.cons.inj remains
        exact ⟨⟨before, left, cs, rest, opened, around, events, piece, rfl, within, plain,
          by simp, whole, read⟩⟩
      | cons e early =>
        obtain ⟨rfl, onward⟩ := List.cons.inj remains
        have next := within.next plain whole read
        have shorter : rest.length < n := by
          rw [← length]
          simp only [List.length_append, List.length_cons]
          omega
        have place := ih rest.length shorter next onward rfl
        simpa only [List.append_assoc, List.cons_append, List.nil_append] using place
    · rw [Events.all_of_plain opened markup, Events.list_foldr_cons, List.append_nil] at split
      refine absurd ?_ (not_mem_ofText noText ahead)
      rw [split]
      exact List.mem_append_right _ List.mem_cons_self

end Xml

end Attest
