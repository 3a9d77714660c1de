import Attest.Proofs.Document.Differences
import Attest.Proofs.Document.Refusals
/-!
# Comments in the content of elements

A comment ends the text before it and begins another behind it. It changes nothing but where text
stands on both sides: there it is read as a blank.
-/

namespace Attest

namespace Xml

/-! ### Places in a text -/

/-- What was read up to a place behind markup: the elements that are open and the events. -/
inductive Within : List String → List Char → List Event → Prop
  | start : Within [] [] []
  | next {opened around : List String} {before run cs : List Char} {events : List Event}
      {piece : Markup} {event : Event} (earlier : Within opened before events)
      (plain : '<' ∉ run) (whole : markup cs = .ok (piece, []))
      (read : Events.step opened piece = .ok (event, around)) :
      Within around (before ++ (run ++ '<' :: cs)) (events ++ (Events.ofText run ++ [event]))

namespace Within

variable {opened : List String} {before : List Char} {events : List Event}

theorem all_append (within : Within opened before events) (rest : List Char) :
    Events.all [] (before ++ rest) = events.foldr Events.cons (Events.all opened rest) := by
  induction within generalizing rest with
  | start => rfl
  | @next opened around before run cs events piece event earlier plain whole read ih =>
    have split : before ++ (run ++ '<' :: cs) ++ rest = before ++ (run ++ '<' :: (cs ++ rest)) := by
      simp
    rw [split, ih, Events.all_append opened plain rfl, Events.all_markup whole read rest,
      List.foldr_append, List.foldr_append]
    rfl

theorem matched_append (within : Within opened before events) {rest : List Event}
    (matched : Matched opened.length rest) : Matched 0 (events ++ rest) := by
  induction within generalizing rest with
  | start => exact matched
  | next earlier plain whole read ih =>
    rw [List.append_assoc, List.append_assoc]
    exact ih (Events.matched_ofText _ (Events.matched_of_step read matched))

theorem before_ne_nil (within : Within opened before events) (content : opened ≠ []) :
    before ≠ [] := by
  cases within with
  | start => exact absurd rfl content
  | next => simp

end Within

/-- A place in the content of an element that is not inside of markup: only text comes between it
and the markup before. The text of the document may begin with a byte order mark. -/
structure Place (text : String) where
  mark : List Char
  before : List Char
  left : List Char
  rest : List Char
  opened : List String
  events : List Event
  whole : text.toList = mark ++ (before ++ (left ++ rest))
  marked : mark = ['\uFEFF'] ∨ mark = [] ∧ before.head? ≠ some '\uFEFF'
  within : Within opened before events
  content : opened ≠ []
  plain : '<' ∉ left

namespace Place

variable {text : String}

/-- The text from the place to the next markup. -/
def right (p : Place text) : List Char :=
  p.rest.takeWhile (· != '<')

def after (p : Place text) : List Char :=
  p.rest.dropWhile (· != '<')

theorem rest_eq (p : Place text) : p.rest = p.right ++ p.after :=
  List.takeWhile_append_dropWhile.symm

theorem plain_sides (p : Place text) : '<' ∉ p.left ++ p.right := by
  intro member
  rcases List.mem_append.mp member with member | member
  · exact p.plain member
  · exact absurd (List.all_eq_true.mp List.all_takeWhile _ member) (by decide)

theorem head?_after (p : Place text) (more : p.after ≠ []) : p.after.head? = some '<' := by
  have first : (p.rest.dropWhile (· != '<')).head more = '<' := by
    simpa using List.head_dropWhile_not (· != '<') more
  exact (List.head?_eq_some_head more).trans (congrArg some first)

/-- The text with characters more at the place. -/
def insert (p : Place text) (cs : List Char) : String :=
  String.ofList (p.mark ++ (p.before ++ (p.left ++ (cs ++ p.rest))))

theorem insert_nil (p : Place text) : p.insert [] = text := by
  rw [insert, List.nil_append, ← p.whole, String.ofList_toList]

/-- The elements up to the place are read as if the text ended there. -/
theorem ofString_insert (p : Place text) (cs : List Char) :
    Events.ofString (p.insert cs) =
      p.events.foldr Events.cons (Events.all p.opened (p.left ++ (cs ++ (p.right ++ p.after)))) := by
  rw [← p.rest_eq, ← p.within.all_append]
  obtain ⟨first, rest, same⟩ := List.exists_cons_of_ne_nil (p.within.before_ne_nil p.content)
  rcases p.marked with marked | ⟨marked, bare⟩
  · rw [insert, marked, Events.ofString, String.toList_ofList]
    rfl
  · rw [insert, marked, Events.ofString, String.toList_ofList, same]
    rw [same] at bare
    split
    · next rest' marks =>
      obtain ⟨rfl, _⟩ := List.cons.inj marks
      exact absurd rfl bare
    · rfl

end Place

end Xml

/-! ### Comments -/

namespace XmlTree

open Xml

variable {t : XmlTree} {opened : List String} {left right after l r inside : List Char}

theorem matched_run {t u : XmlTree} {events rest : List Event} (read : t.run events = .ok u)
    (matched : Matched t.opened.length (events ++ rest)) : Matched u.opened.length rest := by
  induction events generalizing t with
  | nil =>
    cases read
    exact matched
  | cons event events ih =>
    rw [run, List.foldlM_cons] at read
    obtain ⟨v, next, onward⟩ := ok_of_bind read
    exact ih onward (matched_step next matched)

theorem matched_closing {α : Type} {items : List α} (nonempty : items ≠ []) :
    Matched items.length [.closing] := by
  obtain ⟨item, rest, rfl⟩ := List.exists_cons_of_ne_nil nonempty
  exact trivial

theorem opened_ne_nil_of_run {u : XmlTree} {events : List Event} (read : t.run events = .ok u)
    (matched : Matched t.opened.length (events ++ [.closing])) : u.opened ≠ [] := by
  intro closed
  have closing := matched_run read matched
  rw [closed] at closing
  exact closing

/-- Within an element text does not end the document. -/
theorem after_ne_nil (within : t.opened ≠ []) (plain : '<' ∉ left) {document : Node}
    (read : t.reading (Events.all opened (left ++ after)) = .ok document) : after ≠ [] := by
  rintro rfl
  rw [List.append_nil, Events.all_of_plain opened plain, reading_foldr] at read
  obtain ⟨u, added, finished⟩ := ok_of_bind read
  have closing := Events.matched_ofText left (matched_closing within)
  obtain ⟨opened, root⟩ := u
  cases opened with
  | nil => exact opened_ne_nil_of_run added closing rfl
  | cons element around => cases finished

/-- With a comment in it a text is added one side after the other. -/
theorem reading_cut (within : t.opened ≠ []) (opened : List String)
    (inner : ¬ ['-', '-', '>'] <:+: inside) (plain : '<' ∉ left ++ right)
    (first : unescape left = .ok l) (second : unescape right = .ok r)
    (stops : after.head? = some '<') :
    t.reading (Events.all opened (left ++ '<' :: (commentOf inside ++ (right ++ after)))) =
      t.put (Unicode.joined (Unicode.trimChars l) (Unicode.trimChars r)) >>= fun u =>
        u.reading (Events.all opened after) := by
  rw [List.mem_append, not_or] at plain
  rw [reading_text opened plain.1 first rfl, ← put_put within, bind_assoc]
  refine congrArg (t.put (Unicode.trimChars l) >>= ·) (funext fun u => ?_)
  rw [reading_comment inner, reading_text opened plain.2 second stops]

theorem unescape_sides (first : unescape left = .ok l) (plain : '<' ∉ left ++ right)
    (stops : after.head? = some '<') {document : Node}
    (read : t.reading (Events.all opened (left ++ right ++ after)) = .ok document) :
    ∃ r, unescape right = .ok r ∧ unescape (left ++ right) = .ok (l ++ r) := by
  rw [Events.all_append opened plain stops, reading_foldr] at read
  obtain ⟨u, added, _⟩ := ok_of_bind read
  obtain ⟨ds, decoded⟩ := unescape_of_run_ofText plain added
  have split := decodeFrom_append (unescape_eq_ok_iff.mp first) right
  rw [unescape_eq_ok_iff.mp decoded] at split
  obtain ⟨r, second, rfl⟩ := Option.map_eq_some_iff.mp split.symm
  exact ⟨r, unescape_eq_ok_iff.mpr second, decoded⟩

end XmlTree

namespace Node

open Xml XmlTree Unicode

variable {text : String} {document : Node}

theorem readXml_insert (p : Place text) (cs : List Char) :
    readXml (p.insert cs) = ({} : XmlTree).run p.events >>= fun t =>
      t.reading (Events.all p.opened (p.left ++ (cs ++ (p.right ++ p.after)))) := by
  rw [readXml, p.ofString_insert, ofEvents_eq_reading, reading_foldr]

theorem opened_ne_nil (p : Place text) {t : XmlTree} (here : ({} : XmlTree).run p.events = .ok t) :
    t.opened ≠ [] :=
  opened_ne_nil_of_run here (p.within.matched_append (matched_closing p.content))

/-- Of two texts added at the same place the documents agree just if the texts do. -/
theorem reading_put {t : XmlTree} {later : Events} {cs ds : List Char}
    (bothEmpty : cs = [] ↔ ds = [])
    (read : (t.put cs >>= fun u => u.reading later) = .ok document) :
    ∃ other, (t.put ds >>= fun u => u.reading later) = .ok other ∧
      (other = document ↔ cs = ds) := by
  by_cases same : cs = ds
  · rw [← same]
    exact ⟨document, read, iff_of_true rfl rfl⟩
  · have nonempty : cs ≠ [] := fun empty => same (empty.trans (bothEmpty.mp empty).symm)
    have nonempty' : ds ≠ [] := mt bothEmpty.mpr nonempty
    obtain ⟨u, added, onward⟩ := ok_of_bind read
    obtain ⟨v, added', apart⟩ := parallel_put t nonempty nonempty' same u added
    obtain ⟨other, read', different⟩ := apart.reading onward
    rw [added']
    exact ⟨other, read', iff_of_false different same⟩

/-- A comment in the content of an element leaves a document that is read readable. It is the same
one just if the text around the place is that of both sides with a blank between them. So next to
other characters than blanks on both sides the comment is read as a blank, and the document
changes. -/
theorem readXml_comment (read : readXml text = .ok document) (p : Place text)
    {inside l : List Char} (inner : ¬ ['-', '-', '>'] <:+: inside)
    (left : unescape p.left = .ok l) :
    ∃ r other, unescape p.right = .ok r ∧
      readXml (p.insert ('<' :: commentOf inside)) = .ok other ∧
      (other = document ↔ trimChars (l ++ r) = joined (trimChars l) (trimChars r)) ∧
      (Bare l r →
        (other = document ↔ l = [] ∨ r = []) ∧ readXml (p.insert [' ']) = .ok other) := by
  have started := readXml_insert p []
  rw [p.insert_nil, read] at started
  obtain ⟨t, here, whole⟩ := ok_of_bind started.symm
  rw [List.nil_append, ← List.append_assoc] at whole
  have inserted (cs : List Char) : readXml (p.insert cs) =
      t.reading (Events.all p.opened (p.left ++ (cs ++ (p.right ++ p.after)))) := by
    rw [readXml_insert, here]
    rfl
  have within := opened_ne_nil p here
  have stops := p.head?_after (after_ne_nil within p.plain_sides whole)
  -- Without the comment both sides are one text, with it they are added one after the other.
  obtain ⟨r, right, both⟩ := unescape_sides left p.plain_sides stops whole
  have cut : readXml (p.insert ('<' :: commentOf inside)) =
      t.put (joined (trimChars l) (trimChars r)) >>= fun u =>
        u.reading (Events.all p.opened p.after) := by
    rw [inserted]
    exact reading_cut within p.opened inner p.plain_sides left right stops
  rw [reading_text p.opened p.plain_sides both stops] at whole
  obtain ⟨other, commented, agree⟩ := reading_put trimChars_append_eq_nil_iff whole
  refine ⟨r, other, right, cut.trans commented, agree, fun bare => ⟨?_, ?_⟩⟩
  · rw [agree, trimChars_append_eq_joined_iff bare]
  · have blank : unescape [' '] = .ok [' '] := rfl
    have spaced : unescape (p.left ++ ' ' :: p.right) = .ok (l ++ ' ' :: r) :=
      unescape_append left (unescape_append blank right)
    have plain : '<' ∉ p.left ++ ' ' :: p.right := by
      have plain := p.plain_sides
      simp only [List.mem_append, List.mem_cons, not_or] at plain ⊢
      exact ⟨plain.1, by decide, plain.2⟩
    have regrouped : p.left ++ ([' '] ++ (p.right ++ p.after)) =
        p.left ++ ' ' :: p.right ++ p.after := by
      rw [List.append_assoc]
      rfl
    rw [inserted, regrouped, reading_text p.opened plain spaced stops,
      trimChars_blank_between bare, ← commented]

/-- A place within the text of an element. -/
def withinWord : Place "<a>hello</a>" where
  mark := []
  before := ['<', 'a', '>']
  left := ['h', 'e', 'l']
  rest := ['l', 'o', '<', '/', 'a', '>']
  opened := ["a"]
  events := [.opening ⟨"a", .ok []⟩]
  whole := by decide
  marked := by decide
  within := by
    have tag : markup ['a', '>'] = .ok (.opening ['a'], []) := rfl
    have opens : Events.step [] (.opening ['a']) = .ok (.opening ⟨"a", .ok []⟩, ["a"]) := rfl
    exact .next .start List.not_mem_nil tag opens
  content := by decide
  plain := by decide

theorem insert_withinWord :
    withinWord.insert ('<' :: commentOf [' ', 'c', ' ']) = "<a>hel<!-- c -->lo</a>" := by
  decide

theorem readXml_comment_withinWord :
    ∃ other, readXml "<a>hel<!-- c -->lo</a>" = .ok other ∧ readXml "<a>hel lo</a>" = .ok other ∧
      other ≠ .mapping [("a", .string "hello")] := by
  have read : readXml "<a>hello</a>" = .ok (.mapping [("a", .string "hello")]) := rfl
  have inner : ¬ ['-', '-', '>'] <:+: [' ', 'c', ' '] := by decide
  have left : unescape withinWord.left = .ok ['h', 'e', 'l'] := rfl
  obtain ⟨r, other, right, commented, _, bare⟩ := readXml_comment read withinWord inner left
  obtain rfl : ['l', 'o'] = r := Except.ok.inj right
  obtain ⟨agree, spaced⟩ := bare ⟨by decide, by decide⟩
  have blank : withinWord.insert [' '] = "<a>hel lo</a>" := by decide
  rw [insert_withinWord] at commented
  rw [blank] at spaced
  exact ⟨other, commented, spaced, fun same => by simpa using agree.mp same⟩

/-- A comment does change a document, although no blank is next to it. -/
theorem comment_changes_document :
    ¬ ∀ (text : String) (document : Node) (p : Place text) (inside l r : List Char),
      readXml text = .ok document → ¬ ['-', '-', '>'] <:+: inside →
      unescape p.left = .ok l → unescape p.right = .ok r → Bare l r →
      readXml (p.insert ('<' :: commentOf inside)) = .ok document := by
  intro unchanged
  have same := unchanged _ (.mapping [("a", .string "hello")]) withinWord [' ', 'c', ' ']
    ['h', 'e', 'l'] ['l', 'o'] rfl (by decide) rfl rfl ⟨by decide, by decide⟩
  have read : readXml "<a>hel<!-- c -->lo</a>" = .ok (.mapping [("a", .string "hel lo")]) := rfl
  rw [insert_withinWord, read] at same
  simp at same

end Node

end Attest
