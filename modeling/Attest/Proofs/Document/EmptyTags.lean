import Attest.Proofs.Document.Tags
/-!
# Empty tags

An element without content is written with an empty tag or with a start tag and an end tag. Both are
read alike, but for what is wrong with a start tag whatever its attributes are: of an element that
lies too deep, or is a second root, only the start tag is refused at once.
-/

namespace Attest

namespace Xml

/-! ### Elements without content -/

/-- A place in a text for an element without content: only text comes between it and the markup
before. The text may begin with a byte order mark. -/
structure EmptyElement where
  mark : List Char
  before : List Char
  left : List Char
  content : List Char
  rest : List Char
  opened : List String
  events : List Event
  marked : mark = ['\uFEFF'] ∨ mark = [] ∧ (before ++ left).head? ≠ some '\uFEFF'
  within : Within opened before events
  plain : '<' ∉ left
  isTag : IsTag content

namespace EmptyElement

def tag (e : EmptyElement) : Tag :=
  Tag.ofContent e.content

/-- The events before the element. -/
def earlier (e : EmptyElement) : List Event :=
  e.events ++ Events.ofText e.left

/-- The text with the element written like this. -/
def written (e : EmptyElement) (cs : List Char) : String :=
  String.ofList (e.mark ++ (e.before ++ (e.left ++ (cs ++ e.rest))))

def withEmptyTag (e : EmptyElement) : String :=
  e.written ('<' :: (e.content ++ ['/', '>']))

def withTwoTags (e : EmptyElement) : String :=
  e.written ('<' :: (e.content ++ ['>'] ++ '<' :: '/' :: (tagName e.content ++ ['>'])))

theorem ofString_written (e : EmptyElement) (cs : List Char) :
    Events.ofString (e.written ('<' :: cs)) =
      e.earlier.foldr Events.cons (Events.all e.opened ('<' :: (cs ++ e.rest))) := by
  have body : Events.all [] (e.before ++ (e.left ++ ('<' :: cs ++ e.rest))) =
      e.earlier.foldr Events.cons (Events.all e.opened ('<' :: (cs ++ e.rest))) := by
    rw [e.within.all_append, Events.all_append e.opened e.plain rfl, earlier, List.foldr_append]
    rfl
  rw [← body]
  rcases e.marked with marked | ⟨marked, bare⟩
  · rw [written, marked, Events.ofString, String.toList_ofList]
    rfl
  · rw [written, marked, Events.ofString, String.toList_ofList, List.nil_append]
    split
    · next rest marks =>
      rw [← List.append_assoc] at marks
      refine absurd ?_ bare
      cases first : e.before ++ e.left with
      | nil =>
        rw [first] at marks
        exact absurd (List.cons.inj marks).1 (by decide)
      | cons c later =>
        rw [first] at marks
        rw [(List.cons.inj marks).1]
        rfl
    · rfl

end EmptyElement

/-! ### Empty elements of a text -/

variable {source : String} {earlier later : List Event} {tag : Tag} {event : Event}

/-- The text behind a byte order mark, if there is one. -/
theorem ofString_eq_all (source : String) :
    ∃ mark ahead, source.toList = mark ++ ahead ∧
      (mark = ['\uFEFF'] ∨ mark = [] ∧ ahead.head? ≠ some '\uFEFF') ∧
      Events.ofString source = Events.all [] ahead := by
  unfold Events.ofString
  split
  · next rest marked => exact ⟨['\uFEFF'], rest, marked, .inl rfl, rfl⟩
  · next bare =>
    refine ⟨[], source.toList, rfl, .inr ⟨rfl, fun first => ?_⟩, rfl⟩
    obtain ⟨rest, same⟩ := List.head?_eq_some_iff.mp first
    exact bare rest same

theorem exists_origin (split : (Events.ofString source).list = earlier ++ event :: later)
    (noText : ∀ content, event ≠ .text content) :
    ∃ mark ahead, source.toList = mark ++ ahead ∧
      ∃ o : Origin ahead earlier event,
        mark = ['\uFEFF'] ∨ mark = [] ∧ (o.before ++ o.left).head? ≠ some '\uFEFF' := by
  obtain ⟨mark, ahead, whole, marked, events⟩ := ofString_eq_all source
  rw [events] at split
  obtain ⟨o⟩ := Within.start.exists_origin split noText
  refine ⟨mark, ahead, whole, o, ?_⟩
  refine marked.imp_right fun ⟨unmarked, bare⟩ => ⟨unmarked, fun first => bare ?_⟩
  have parts : ahead = o.before ++ o.left ++ '<' :: (o.cs ++ o.rest) := by
    rw [List.append_assoc]
    exact o.split
  rw [parts, List.head?_append, first]
  rfl

theorem eq_closing_of_step {opened beyond : List String} {name : List Char}
    (read : Events.step opened (.closing name) = .ok (event, beyond)) : event = .closing := by
  cases opened with
  | nil => cases read
  | cons expected outer =>
    simp only [Events.step] at read
    split at read
    · cases read
      rfl
    · cases read

/-- Each empty tag of a text is one of an element without content, unless a slash or a quote makes
it another tag when it is written with two. -/
theorem exists_withEmptyTag
    (split : (Events.ofString source).list = earlier ++ .empty tag :: later) :
    ∃ content, tag = Tag.ofContent content ∧
      (content.getLast? ≠ some '/' → (∀ c ∈ tagName content, c ≠ '"' ∧ c ≠ '\'') →
        ∃ e : EmptyElement, e.withEmptyTag = source ∧ e.tag = tag ∧ e.earlier = earlier) := by
  obtain ⟨mark, ahead, whole, o, marked⟩ := exists_origin split nofun
  obtain ⟨before, left, cs, rest, opened, beyond, events, piece, parts, within, plain, same, own,
    read⟩ := o
  cases piece with
  | empty content =>
    cases read
    refine ⟨content, rfl, fun last named => ?_⟩
    obtain ⟨rfl, isTag⟩ := isTag_of_empty named own last
    let e : EmptyElement := ⟨mark, before, left, content, rest, opened, events, marked, within,
      plain, isTag⟩
    refine ⟨e, ?_, rfl, same.symm⟩
    rw [← String.ofList_toList (s := source), whole, parts]
    rfl
  | closing name => cases eq_closing_of_step read
  | opening content | data content | other => cases read

/-- So is each start tag that is followed by its end tag. -/
theorem exists_withTwoTags
    (split : (Events.ofString source).list = earlier ++ .opening tag :: later) :
    ∃ content, tag = Tag.ofContent content ∧
      (content ≠ [] → (∀ c ∈ tagName content, c ≠ '"' ∧ c ≠ '\'') →
        ∃ front rest, source.toList = front ++ '<' :: (content ++ '>' :: rest) ∧
          ∀ behind, rest = '<' :: '/' :: (tagName content ++ '>' :: behind) →
            ∃ e : EmptyElement, e.withTwoTags = source ∧ e.tag = tag ∧ e.earlier = earlier) := by
  obtain ⟨mark, ahead, whole, o, marked⟩ := exists_origin split nofun
  obtain ⟨before, left, cs, rest, opened, beyond, events, piece, parts, within, plain, same, own,
    read⟩ := o
  cases piece with
  | opening content =>
    cases read
    refine ⟨content, rfl, fun nonempty named => ?_⟩
    obtain ⟨rfl, isTag⟩ := isTag_of_opening named own nonempty
    refine ⟨mark ++ (before ++ left), rest, by rw [whole, parts]; simp, fun behind ends => ?_⟩
    let e : EmptyElement := ⟨mark, before, left, content, behind, opened, events, marked, within,
      plain, isTag⟩
    refine ⟨e, ?_, rfl, same.symm⟩
    rw [← String.ofList_toList (s := source), whole, parts, ends]
    simp [e, EmptyElement.withTwoTags, EmptyElement.written]
  | closing name => cases eq_closing_of_step read
  | empty content | data content | other => cases read

end Xml

/-! ### Opening and closing -/

namespace XmlTree

open Xml

variable {t u : XmlTree} {opened : List String}

/-- A second root begins, whatever its attributes are. -/
def HasRoot (t : XmlTree) : Prop :=
  t.opened = [] ∧ t.root.isSome

instance (t : XmlTree) : Decidable t.HasRoot :=
  inferInstanceAs (Decidable (_ ∧ _))

/-- To open an element and to close it is to add it when it is empty, unless it may not be opened at
all. -/
theorem open_close (t : XmlTree) (tag : Tag) :
    (t.step (.opening tag) >>= fun u => u.step .closing) =
      if t.HasRoot then .error (.multipleRoots tag.name)
      else if maxElementDepth ≤ t.opened.length then .error .tooDeep
      else t.step (.empty tag) := by
  simp only [step, openElement]
  have second : (t.opened.isEmpty && t.root.isSome) = true ↔ t.HasRoot := by
    rw [Bool.and_eq_true, List.isEmpty_iff, HasRoot]
  by_cases root : t.HasRoot
  · rw [if_pos (second.mpr root), if_pos root]
    rfl
  rw [if_neg (mt second.mp root), if_neg root]
  by_cases deep : maxElementDepth ≤ t.opened.length
  · rw [if_pos deep, if_pos deep]
    rfl
  rw [if_neg deep, if_neg deep]
  cases Element.ofTag tag with
  | error fault => rfl
  | ok element => rfl

/-- A second root is refused in both notations, but when its attributes are wrong an empty tag is
refused for that. -/
theorem step_empty_of_hasRoot (root : t.HasRoot) (tag : Tag) :
    t.step (.empty tag) = match tag.attributes with
      | .ok _ => .error (.multipleRoots tag.name)
      | .error fault => .error (.ofTagFault fault) := by
  obtain ⟨opened, r⟩ := t
  obtain ⟨closed, rooted⟩ := root
  dsimp only at closed rooted
  subst closed
  simp only [step, Element.ofTag]
  cases tag.attributes with
  | error fault => rfl
  | ok attributes => exact if_pos rooted

/-! ### Names of open elements -/

theorem ofTag_eq_ok {tag : Tag} {element : Element} (read : Element.ofTag tag = .ok element) :
    element.name = tag.name := by
  unfold Element.ofTag at read
  split at read
  · cases read
    rfl
  · cases read

/-- The elements that are open in the tree are those that the text has left open. -/
theorem names_step {piece : Markup} {event : Event} {around : List String}
    (read : Events.step opened piece = .ok (event, around))
    (names : t.opened.map (·.name) = opened) (goes : t.step event = .ok u) :
    u.opened.map (·.name) = around := by
  cases piece with
  | opening content =>
    cases read
    obtain ⟨element, found, rfl⟩ := openElement_eq_ok goes
    rw [List.map_cons, ofTag_eq_ok found, names]
  | empty content =>
    cases read
    obtain ⟨element, _, attached⟩ := ok_of_bind goes
    rw [names_attach attached, names]
  | closing name =>
    cases opened with
    | nil => cases read
    | cons expected outer =>
      simp only [Events.step] at read
      split at read
      · cases read
        simp only [step, closeElement] at goes
        obtain ⟨elements, root⟩ := t
        cases elements with
        | nil => cases names
        | cons element rest =>
          rw [names_attach goes]
          exact (List.cons.inj names).2
      · cases read
  | data content =>
    cases read
    have added : t.addText (String.ofList content) = .ok u := goes
    rw [names_addText added, names]
  | other =>
    cases read
    cases goes
    exact names

theorem names_ofText {ahead : List Char} (read : t.run (Events.ofText ahead) = .ok u) :
    u.opened.map (·.name) = t.opened.map (·.name) := by
  unfold Events.ofText at read
  split at read
  · cases read
    rfl
  · rw [run_singleton] at read
    generalize unescape _ = decoded at read
    cases decoded with
    | error fault => cases read
    | ok text =>
      have added : t.addText (String.ofList text) = .ok u := read
      exact names_addText added

theorem run_append_eq (t : XmlTree) (events more : List Event) :
    t.run (events ++ more) = t.run events >>= fun u => u.run more :=
  List.foldlM_append

theorem names_within {before : List Char} {events : List Event}
    (within : Within opened before events) (read : ({} : XmlTree).run events = .ok t) :
    t.opened.map (·.name) = opened := by
  induction within generalizing t with
  | start =>
    cases read
    rfl
  | next earlier plain whole scanned ih =>
    rw [run_append_eq] at read
    obtain ⟨v, first, later⟩ := ok_of_bind read
    rw [run_append_eq] at later
    obtain ⟨w, text, last⟩ := ok_of_bind later
    rw [run_singleton] at last
    exact names_step scanned ((names_ofText text).trans (ih first)) last

end XmlTree

/-! ### Documents -/

namespace Node

open Xml XmlTree

variable (e : EmptyElement)

theorem readXml_withEmptyTag :
    readXml e.withEmptyTag = ({} : XmlTree).run e.earlier >>= fun t =>
      t.step (.empty e.tag) >>= fun u => u.reading (Events.all e.opened e.rest) := by
  rw [EmptyElement.withEmptyTag, readXml, e.ofString_written, ofEvents_eq_reading, reading_foldr,
    e.isTag.all_emptyTag]
  refine congrArg (({} : XmlTree).run e.earlier >>= ·) (funext fun t => ?_)
  exact (reading_foldr t [_] _).trans (by rw [run_singleton]; rfl)

theorem readXml_withTwoTags :
    readXml e.withTwoTags = ({} : XmlTree).run e.earlier >>= fun t =>
      (t.step (.opening e.tag) >>= fun u => u.step .closing) >>= fun u =>
        u.reading (Events.all e.opened e.rest) := by
  have grouped : e.content ++ ['>'] ++ '<' :: '/' :: (tagName e.content ++ ['>']) ++ e.rest =
      e.content ++ ['>'] ++ '<' :: ('/' :: (tagName e.content ++ ['>']) ++ e.rest) := by
    simp
  rw [EmptyElement.withTwoTags, readXml, e.ofString_written, ofEvents_eq_reading, reading_foldr,
    grouped, e.isTag.all_twoTags]
  refine congrArg (({} : XmlTree).run e.earlier >>= ·) (funext fun t => ?_)
  have two : t.run [.opening e.tag, .closing] =
      t.step (.opening e.tag) >>= fun u => u.step .closing := by
    rw [run, List.foldlM_cons]
    exact congrArg _ (funext fun u => run_singleton u .closing)
  rw [← two]
  exact reading_foldr t [_, _] _

/-- How an element without content is read, behind what was read before it. -/
structure ReadBehind (t : XmlTree) (e : EmptyElement) : Prop where
  /-- As many elements are open as the text has left open. -/
  names : t.opened.map (·.name) = e.opened
  /-- Two tags are a second root at once. An empty tag is one if its attributes are right. -/
  secondRoot : t.HasRoot → readXml e.withTwoTags = .error (.multipleRoots e.tag.name) ∧
    readXml e.withEmptyTag = match e.tag.attributes with
      | .ok _ => .error (.multipleRoots e.tag.name)
      | .error fault => .error (.ofTagFault fault)
  /-- Two tags lie too deep where as many elements are open as may be. -/
  inner : ¬ t.HasRoot → readXml e.withTwoTags =
    if e.opened.length < maxElementDepth then readXml e.withEmptyTag else .error .tooDeep

variable {e}

theorem readBehind {t : XmlTree} (read : ({} : XmlTree).run e.earlier = .ok t) :
    ReadBehind t e := by
  have names : t.opened.map (·.name) = e.opened := by
    have inner := read
    rw [EmptyElement.earlier, run_append_eq] at inner
    obtain ⟨u, before, text⟩ := ok_of_bind inner
    exact (names_ofText text).trans (names_within e.within before)
  have depth : t.opened.length = e.opened.length := by
    rw [← names, List.length_map]
  have emptyTag : readXml e.withEmptyTag =
      t.step (.empty e.tag) >>= fun u => u.reading (Events.all e.opened e.rest) := by
    rw [readXml_withEmptyTag, read]
    rfl
  have twoTags : readXml e.withTwoTags = (t.step (.opening e.tag) >>= fun u => u.step .closing) >>=
      fun u => u.reading (Events.all e.opened e.rest) := by
    rw [readXml_withTwoTags, read]
    rfl
  rw [open_close, depth] at twoTags
  refine ⟨names, fun root => ?_, fun noRoot => ?_⟩
  · rw [if_pos root] at twoTags
    rw [step_empty_of_hasRoot root] at emptyTag
    refine ⟨twoTags, emptyTag.trans ?_⟩
    cases e.tag.attributes <;> rfl
  · rw [if_neg noRoot] at twoTags
    by_cases deep : maxElementDepth ≤ e.opened.length
    · rw [if_pos deep] at twoTags
      rw [if_neg (Nat.not_lt.mpr deep), twoTags]
      rfl
    · rw [if_neg deep] at twoTags
      rw [if_pos (Nat.lt_of_not_le deep), twoTags, emptyTag]

variable (e)

/-- An element without content is read alike with an empty tag and with two tags where fewer
elements are open than may be and its attributes are right. If what comes before it is refused, it
is refused in both notations for that. Otherwise only two tags are refused for lying too deep, and
of a second root with wrong attributes only the empty tag is refused for these. -/
theorem readXml_emptyTag :
    (e.opened.length < maxElementDepth → e.tag.attributes.isOk →
      readXml e.withTwoTags = readXml e.withEmptyTag) ∧
    (∀ error, ({} : XmlTree).run e.earlier = .error error →
      readXml e.withTwoTags = .error error ∧ readXml e.withEmptyTag = .error error) ∧
    ∀ t, ({} : XmlTree).run e.earlier = .ok t → ReadBehind t e := by
  have refused (error : XmlError) (failed : ({} : XmlTree).run e.earlier = .error error) :
      readXml e.withTwoTags = .error error ∧ readXml e.withEmptyTag = .error error := by
    rw [readXml_withTwoTags, readXml_withEmptyTag, failed]
    exact ⟨rfl, rfl⟩
  refine ⟨fun shallow right => ?_, refused, fun t read => readBehind read⟩
  cases read : ({} : XmlTree).run e.earlier with
  | error error => rw [(refused error read).1, (refused error read).2]
  | ok t =>
    have behind := readBehind read
    by_cases root : t.HasRoot
    · obtain ⟨twoTags, emptyTag⟩ := behind.secondRoot root
      rw [twoTags, emptyTag]
      cases found : e.tag.attributes with
      | error fault =>
        rw [found] at right
        cases right
      | ok attributes => rfl
    · rw [behind.inner root, if_pos shallow]

/-- So many start tags, one within the other. -/
def startTags (n : Nat) : List Char :=
  (List.replicate n ['<', 'a', '>']).flatten

theorem within_startTags (n : Nat) :
    Within (List.replicate n "a") (startTags n) (List.replicate n (.opening ⟨"a", .ok []⟩)) := by
  induction n with
  | zero => exact .start
  | succ n ih =>
    have tag : markup ['a', '>'] = .ok (.opening ['a'], []) := rfl
    have opens : Events.step (List.replicate n "a") (.opening ['a']) =
        .ok (.opening ⟨"a", .ok []⟩, List.replicate (n + 1) "a") := rfl
    have last : startTags (n + 1) = startTags n ++ ['<', 'a', '>'] := by
      rw [startTags, List.replicate_succ', List.flatten_concat, startTags]
    rw [last, List.replicate_succ' (n := n) (a := Event.opening _)]
    exact .next ih List.not_mem_nil tag opens

/-- An empty element with an attribute, within another element. -/
def attributed : EmptyElement where
  mark := []
  before := startTags 1
  left := []
  content := ['b', ' ', 'k', '=', '"', '1', '"']
  rest := ['<', '/', 'a', '>']
  opened := List.replicate 1 "a"
  events := List.replicate 1 (.opening ⟨"a", .ok []⟩)
  marked := by decide
  within := within_startTags 1
  plain := by decide
  isTag := ⟨⟨'b', _, rfl, by decide⟩, rfl, by decide, List.forall_mem_singleton.mpr (by decide)⟩

theorem readXml_emptyTag_attributed :
    attributed.withEmptyTag = "<a><b k=\"1\"/></a>" ∧
      readXml "<a><b k=\"1\"></b></a>" = readXml "<a><b k=\"1\"/></a>" := by
  have emptyTag : attributed.withEmptyTag = "<a><b k=\"1\"/></a>" := by decide
  have twoTags : attributed.withTwoTags = "<a><b k=\"1\"></b></a>" := by decide
  have shallow : attributed.opened.length < maxElementDepth := by decide
  refine ⟨emptyTag, ?_⟩
  rw [← emptyTag, ← twoTags]
  exact (readXml_emptyTag attributed).1 shallow rfl

/-! ### Where the notations differ -/

def endTags (n : Nat) : List Char :=
  (List.replicate n ['<', '/', 'a', '>']).flatten

theorem run_startTags {n : Nat} (fits : n ≤ maxElementDepth) :
    ({} : XmlTree).run (List.replicate n (.opening ⟨"a", .ok []⟩)) =
      .ok ⟨List.replicate n ⟨"a", [], [], ""⟩, none⟩ := by
  induction n with
  | zero => rfl
  | succ n ih =>
    have room : ¬ maxElementDepth ≤ (List.replicate n (⟨"a", [], [], ""⟩ : Element)).length := by
      rw [List.length_replicate]
      exact Nat.not_le.mpr fits
    rw [List.replicate_succ', run_append (ih (Nat.le_of_lt fits)), run_singleton, XmlTree.step,
      openElement, Option.isSome_none, Bool.and_false, if_neg Bool.false_ne_true, if_neg room]
    rfl

/-- Elements that are open are closed one after the other. -/
theorem reading_endTags (element : Element) (around : List Element) :
    ∃ document, XmlTree.reading ⟨element :: around, none⟩
      (Events.all (List.replicate (around.length + 1) "a") (endTags (around.length + 1))) =
        .ok document := by
  induction around generalizing element with
  | nil => exact ⟨.mapping [element.entry], rfl⟩
  | cons parent around ih =>
    have tag : markup ('/' :: (['a'] ++ ['>'])) = .ok (.closing ['a'], []) := rfl
    have first : endTags (around.length + 2) =
        '<' :: ('/' :: (['a'] ++ ['>']) ++ endTags (around.length + 1)) := rfl
    have closed := Events.all_endTag tag (List.replicate (around.length + 1) "a")
      (endTags (around.length + 1))
    obtain ⟨document, read⟩ := ih (parent.addChild element.entry)
    refine ⟨document, ?_⟩
    rw [List.length_cons, first]
    refine (congrArg (XmlTree.reading _) closed).trans ?_
    exact (reading_foldr _ [.closing] _).trans read

/-- The element `<b/>` within so many others. -/
def nested (n : Nat) : EmptyElement where
  mark := []
  before := startTags n
  left := []
  content := ['b']
  rest := endTags n
  opened := List.replicate n "a"
  events := List.replicate n (.opening ⟨"a", .ok []⟩)
  marked := by
    refine .inr ⟨rfl, ?_⟩
    cases n with
    | zero => decide
    | succ n => exact (by decide : some '<' ≠ some '\uFEFF')
  within := within_startTags n
  plain := by decide
  isTag := ⟨⟨'b', [], rfl, by decide⟩, rfl, by decide, List.forall_mem_singleton.mpr (by decide)⟩

/-- The element `<b k/>` behind the root `<a/>`. Its attribute has no value. -/
def secondRoot : EmptyElement where
  mark := []
  before := ['<', 'a', '/', '>']
  left := []
  content := ['b', ' ', 'k']
  rest := []
  opened := []
  events := [.empty ⟨"a", .ok []⟩]
  marked := by decide
  within := by
    have tag : markup ['a', '/', '>'] = .ok (.empty ['a'], []) := rfl
    have empty : Events.step [] (.empty ['a']) = .ok (.empty ⟨"a", .ok []⟩, []) := rfl
    exact .next .start List.not_mem_nil tag empty
  plain := by decide
  isTag := ⟨⟨'b', _, rfl, by decide⟩, rfl, by decide, List.forall_mem_singleton.mpr (by decide)⟩

theorem run_nested {n : Nat} (fits : n ≤ maxElementDepth) :
    ({} : XmlTree).run (nested n).earlier = .ok ⟨List.replicate n ⟨"a", [], [], ""⟩, none⟩ := by
  have same : (nested n).earlier = List.replicate n (.opening ⟨"a", .ok []⟩) := List.append_nil _
  rw [same, run_startTags fits]

theorem readXml_nested {n : Nat} (fits : n + 1 ≤ maxElementDepth) :
    ∃ document, readXml (nested (n + 1)).withEmptyTag = .ok document := by
  let parent : Element := ⟨"a", [], [("b", .string "")], ""⟩
  obtain ⟨document, read⟩ := reading_endTags parent (List.replicate n ⟨"a", [], [], ""⟩)
  rw [List.length_replicate] at read
  refine ⟨document, ?_⟩
  rw [readXml_withEmptyTag, run_nested fits]
  exact read

/-- Where as many elements are open as may be an empty tag is read and two tags are not, and a
second root with wrong attributes is refused for these or for what it is. -/
theorem notations_differ :
    (∃ document, readXml (nested maxElementDepth).withEmptyTag = .ok document) ∧
      readXml (nested maxElementDepth).withTwoTags = .error .tooDeep ∧
      readXml secondRoot.withEmptyTag = .error (.attribute (.expectedEquals 3)) ∧
      readXml secondRoot.withTwoTags = .error (.multipleRoots "b") := by
  have fits : maxElementDepth ≤ maxElementDepth := Nat.le_refl _
  have full : ¬ (nested maxElementDepth).opened.length < maxElementDepth := by
    have length : (nested maxElementDepth).opened.length = maxElementDepth := List.length_replicate
    omega
  have noRoot : ¬ HasRoot ⟨List.replicate maxElementDepth ⟨"a", [], [], ""⟩, none⟩ :=
    fun root => nomatch root.1
  refine ⟨readXml_nested fits, ?_, rfl, rfl⟩
  rw [(readBehind (run_nested fits)).inner noRoot, if_neg full]

end Node

end Attest
