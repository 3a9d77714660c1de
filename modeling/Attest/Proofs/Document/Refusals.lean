import Attest.Proofs.Document.Elements
/-!
# Documents that are refused

Events whose tags match are those of a document as it is written, or they leave the form of one at
some event or break off. Reading refuses the latter for the reason that lies there.
-/

namespace Attest

namespace Xml

/-- Nothing is wrong with the attributes or the references of the event. -/
def Event.isClean : Event → Bool
  | .opening tag | .empty tag => tag.attributes.isOk
  | .text content => content.isOk
  | .closing | .other => true

/-- Every end tag closes an element, if at first this many are open. -/
def Matched : Nat → List Event → Prop
  | _, [] => True
  | depth, .opening _ :: rest => Matched (depth + 1) rest
  | 0, .closing :: _ => False
  | depth + 1, .closing :: rest => Matched depth rest
  | depth, .empty _ :: rest | depth, .text _ :: rest | depth, .other :: rest => Matched depth rest

namespace Events

variable {opened : List String} {depth : Nat} {rest : List Event}

theorem list_foldr_cons (texts : List Event) (events : Events) :
    (texts.foldr cons events).list = texts ++ events.list := by
  induction texts with
  | nil => rfl
  | cons text texts ih => rw [List.foldr_cons, cons, ih, List.cons_append]

theorem matched_ofText (ahead : List Char) (matched : Matched depth rest) :
    Matched depth (ofText ahead ++ rest) := by
  unfold ofText
  split
  · exact matched
  · rw [List.singleton_append, Matched]
    exact matched

/-- The names of the open elements are kept, so that only they are closed. -/
theorem matched_of_step {piece : Markup} {event : Event} {around : List String}
    (read : step opened piece = .ok (event, around)) (matched : Matched around.length rest) :
    Matched opened.length (event :: rest) := by
  cases piece with
  | closing name =>
    cases opened with
    | nil => cases read
    | cons expected outer =>
      simp only [step] at read
      split at read
      · cases read
        exact matched
      · cases read
  | opening content | empty content | data content | other =>
    cases read
    rw [Matched]
    exact matched

theorem matched_scan (opened : List String) (limit : Nat) (ahead : List Char) :
    Matched opened.length (scan opened limit ahead).list := by
  induction limit generalizing opened ahead with
  | zero => trivial
  | succ limit ih =>
    rw [scan, list_foldr_cons]
    refine matched_ofText ahead ?_
    split
    · trivial
    · split
      · trivial
      · split
        · trivial
        · next read => exact matched_of_step read (ih _ _)

theorem matched_ofString (text : String) : Matched 0 (ofString text).list := by
  unfold ofString
  split
  · exact matched_scan [] _ _
  · exact matched_scan [] _ _

end Events

/-! ### Documents that break off -/

/-- What is written up to a place before the end of the root. The innermost frame comes first. -/
structure Fragment where
  before : List Piece
  frames : List Frame
  before_misc : ∀ piece ∈ before, piece.IsMisc

namespace Fragment

def eventsOf : List Frame → List Event
  | [] => []
  | f :: around =>
    eventsOf around ++ .opening ⟨f.name, .ok f.attributes⟩ :: Piece.eventsOf f.content

def events (u : Fragment) : List Event :=
  Piece.eventsOf u.before ++ eventsOf u.frames

/-- No element with two tags lies too deep. -/
def FitsAll : List Frame → Prop
  | [] => True
  | f :: around => around.length + 1 + Piece.heightOf f.content ≤ maxElementDepth ∧ FitsAll around

def Fits (u : Fragment) : Prop :=
  FitsAll u.frames

variable {f : Frame} {around : List Frame} {frames : List Frame} {piece : Piece}

theorem eventsOf_add :
    eventsOf (f.add piece :: around) = eventsOf (f :: around) ++ piece.events := by
  simp [eventsOf, Frame.add, Piece.eventsOf_append]

theorem eventsOf_close (outer : Frame) :
    eventsOf (outer.add f.close :: around) = eventsOf (f :: outer :: around) ++ [.closing] := by
  rw [eventsOf_add]
  simp [eventsOf, Frame.close, Piece.events]

theorem FitsAll.length_le (fits : FitsAll frames) : frames.length ≤ maxElementDepth := by
  cases frames with
  | nil => exact Nat.zero_le _
  | cons f around =>
    have here := fits.1
    rw [List.length_cons]
    omega

theorem FitsAll.add (fits : FitsAll (f :: around))
    (room : around.length + 1 + piece.height ≤ maxElementDepth) :
    FitsAll (f.add piece :: around) := by
  refine ⟨?_, fits.2⟩
  have here := fits.1
  simp only [Frame.add, Piece.heightOf_append, Piece.heightOf_singleton]
  omega

theorem FitsAll.close {outer : Frame} (fits : FitsAll (f :: outer :: around)) :
    FitsAll (outer.add f.close :: around) := by
  refine fits.2.add ?_
  have here := fits.1
  rw [List.length_cons] at here
  rw [Frame.close, Piece.height]
  omega

end Fragment

/-- What is wrong with events that are no document. Up to a certain event all is well. -/
inductive Refused : List Event → XmlError → Prop
  /-- Nothing but comments and blanks. -/
  | noRoot {u : Fragment} (outside : u.frames = []) : Refused u.events .noRoot
  /-- The innermost element that is open is never closed. -/
  | unclosed {u : Fragment} {f : Frame} {around : List Frame} (inside : u.frames = f :: around)
      (fits : u.Fits) : Refused u.events (.unclosed f.name)
  | tooDeep {u : Fragment} {tag : Tag} {later : List Event} (fits : u.Fits)
      (full : u.frames.length = maxElementDepth) :
      Refused (u.events ++ .opening tag :: later) .tooDeep
  | textBefore {u : Fragment} {content : String} {later : List Event} (outside : u.frames = [])
      (visible : Unicode.trim content ≠ "") :
      Refused (u.events ++ .text (.ok content) :: later) (.textOutsideRoot (Unicode.trim content))
  | textAfter {m : Manuscript} {content : String} {later : List Event} (fits : m.Fits)
      (visible : Unicode.trim content ≠ "") :
      Refused (m.events ++ .text (.ok content) :: later) (.textOutsideRoot (Unicode.trim content))
  | secondRoot {m : Manuscript} {event : Event} {tag : Tag} {later : List Event} (fits : m.Fits)
      (begins : event = .opening tag ∨ event = .empty tag) :
      Refused (m.events ++ event :: later) (.multipleRoots tag.name)

end Xml

namespace XmlTree

open Xml

variable {t : XmlTree} {events : List Event} {error : XmlError} {u : Fragment}

/-! ### Places that are reached -/

theorem run_frames {frames : List Frame} (fits : Fragment.FitsAll frames) :
    run {} (Fragment.eventsOf frames) = .ok ⟨frames.map Frame.element, none⟩ := by
  induction frames with
  | nil => rfl
  | cons f around ih =>
    have here := fits.1
    have inner := run_eventsOf (around.map Frame.element) none f.content
      ⟨f.name, f.attributes, []⟩ (by rw [List.length_map]; exact here)
    have opens := step_opening (around.map Frame.element) none f.name f.attributes
      (Bool.and_false _) (by rw [List.length_map]; omega)
    rw [Fragment.eventsOf, run_append (ih fits.2), run_cons opens, inner]
    rfl

theorem run_fragment (fits : u.Fits) :
    run {} u.events = .ok ⟨u.frames.map Frame.element, none⟩ := by
  have before : run {} (Piece.eventsOf u.before) = .ok {} := run_misc u.before_misc
  rw [Fragment.events, run_append before, run_frames fits]

/-- The tree after events that are the beginning of a document. -/
inductive Reached : List Event → XmlTree → Prop
  | fragment (u : Fragment) (fits : u.Fits) : Reached u.events ⟨u.frames.map Frame.element, none⟩
  | manuscript (m : Manuscript) (fits : m.Fits) : Reached m.events ⟨[], some m.entry⟩

/-- The reading goes on after the event. -/
def Goes (events : List Event) (t : XmlTree) (event : Event) : Prop :=
  ∃ next, t.step event = .ok next ∧ Reached (events ++ [event]) next

/-- Whatever follows the event, the events are refused. -/
def Ends (events : List Event) (event : Event) : Prop :=
  ∀ later, ∃ error, Refused (events ++ event :: later) error

theorem goes_fragment {event : Event} (next : Fragment) (fits : next.Fits)
    (written : next.events = u.events ++ [event])
    (read : step ⟨u.frames.map Frame.element, none⟩ event =
      .ok ⟨next.frames.map Frame.element, none⟩) :
    Goes u.events ⟨u.frames.map Frame.element, none⟩ event := by
  refine ⟨_, read, ?_⟩
  rw [← written]
  exact .fragment next fits

theorem goes_manuscript {t : XmlTree} {event : Event} {m : Manuscript} (fits : m.Fits)
    (written : m.events = events ++ [event]) (read : t.step event = .ok ⟨[], some m.entry⟩) :
    Goes events t event := by
  refine ⟨_, read, ?_⟩
  rw [← written]
  exact .manuscript m fits

theorem attributes_of_isOk {tag : Tag} (clean : tag.attributes.isOk) :
    ∃ name attributes, tag = ⟨name, .ok attributes⟩ := by
  obtain ⟨name, found⟩ := tag
  cases found with
  | ok attributes => exact ⟨name, attributes, rfl⟩
  | error fault => cases clean

theorem misc_concat {pieces : List Piece} (misc : ∀ piece ∈ pieces, piece.IsMisc) (last : Piece)
    (here : last.IsMisc) : ∀ piece ∈ pieces ++ [last], piece.IsMisc := by
  intro piece member
  rcases List.mem_append.mp member with earlier | same
  · exact misc piece earlier
  · rw [List.mem_singleton.mp same]
    exact here

/-- Before the root there are comments and blanks until it begins. -/
theorem step_before {event : Event} (clean : event.isClean) (outside : u.frames = [])
    (opened : event ≠ .closing) : Goes u.events {} event ∨ Ends u.events event := by
  obtain ⟨before, frames, misc⟩ := u
  dsimp only at outside
  subst outside
  cases event with
  | opening tag =>
    obtain ⟨name, attributes, rfl⟩ := attributes_of_isOk clean
    let next : Fragment := ⟨before, [⟨name, attributes, []⟩], misc⟩
    have room : 0 < maxElementDepth := by decide
    refine .inl (goes_fragment next ⟨room, trivial⟩ ?_ ?_)
    · simp [next, Fragment.events, Fragment.eventsOf, Piece.eventsOf]
    · exact step_opening _ _ name attributes rfl room
  | empty tag =>
    obtain ⟨name, attributes, rfl⟩ := attributes_of_isOk clean
    let root : Frame := ⟨name, attributes, []⟩
    let next : Manuscript := ⟨before, .empty name attributes, [], root.element.entry, misc,
      by simp, root.member?_close⟩
    refine .inl (goes_manuscript (m := next) (Nat.zero_le _) ?_ rfl)
    simp [next, Manuscript.events, Fragment.events, Fragment.eventsOf, Piece.eventsOf_append,
      Piece.events]
  | closing => exact absurd rfl opened
  | text content =>
    cases content with
    | error fault => cases clean
    | ok content =>
      by_cases blank : Unicode.trim content = ""
      · let next : Fragment :=
          ⟨before ++ [.text content], [], misc_concat misc (.text content) blank⟩
        refine .inl (goes_fragment next trivial ?_ ?_)
        · simp [next, Fragment.events, Fragment.eventsOf, Piece.eventsOf_append, Piece.events]
        · simp [step, addText, blank, next]
      · exact .inr fun later => ⟨_, .textBefore rfl blank⟩
  | other =>
    let next : Fragment := ⟨before ++ [.other], [], misc_concat misc .other trivial⟩
    refine .inl (goes_fragment next trivial ?_ rfl)
    simp [next, Fragment.events, Fragment.eventsOf, Piece.eventsOf_append, Piece.events]

/-- Within the root every event goes on, unless an element lies too deep. -/
theorem step_within {event : Event} {f : Frame} {around : List Frame} (clean : event.isClean)
    (inside : u.frames = f :: around) (fits : u.Fits) :
    Goes u.events ⟨u.frames.map Frame.element, none⟩ event ∨ Ends u.events event := by
  obtain ⟨before, frames, misc⟩ := u
  dsimp only at inside
  subst inside
  have fits : Fragment.FitsAll (f :: around) := fits
  cases event with
  | opening tag =>
    obtain ⟨name, attributes, rfl⟩ := attributes_of_isOk clean
    by_cases full : (f :: around).length = maxElementDepth
    · exact .inr fun later => ⟨_, .tooDeep fits full⟩
    · have room : (f :: around).length < maxElementDepth := Nat.lt_of_le_of_ne fits.length_le full
      let next : Fragment := ⟨before, ⟨name, attributes, []⟩ :: f :: around, misc⟩
      refine .inl (goes_fragment next ⟨room, fits⟩ ?_ ?_)
      · simp [next, Fragment.events, Fragment.eventsOf, Piece.eventsOf]
      · exact step_opening _ _ name attributes rfl (by rw [List.length_map]; exact room)
  | empty tag =>
    obtain ⟨name, attributes, rfl⟩ := attributes_of_isOk clean
    have fits : Fragment.FitsAll (f.add (.empty name attributes) :: around) :=
      fits.add (Nat.le_trans (Nat.le_add_right _ _) fits.1)
    let next : Fragment := ⟨before, f.add (.empty name attributes) :: around, misc⟩
    refine .inl (goes_fragment next fits ?_ (step_empty f name attributes))
    simp [next, Fragment.events, Fragment.eventsOf_add, Piece.events]
  | closing =>
    cases around with
    | nil =>
      let next : Manuscript := ⟨before, f.close, [], f.element.entry, misc, by simp,
        f.member?_close⟩
      have deep : f.close.height ≤ maxElementDepth := by
        have here := fits.1
        rw [List.length_nil] at here
        rw [Frame.close, Piece.height]
        omega
      refine .inl (goes_manuscript (m := next) deep ?_ rfl)
      simp [next, Manuscript.events, Fragment.events, Fragment.eventsOf, Piece.eventsOf_append,
        Frame.close, Piece.events]
    | cons outer around =>
      let next : Fragment := ⟨before, outer.add f.close :: around, misc⟩
      refine .inl (goes_fragment next fits.close ?_ (step_closing f outer))
      simp [next, Fragment.events, Fragment.eventsOf_close]
  | text content =>
    cases content with
    | error fault => cases clean
    | ok content =>
      have fits : Fragment.FitsAll (f.add (.text content) :: around) :=
        fits.add (Nat.le_trans (Nat.le_add_right _ _) fits.1)
      let next : Fragment := ⟨before, f.add (.text content) :: around, misc⟩
      refine .inl (goes_fragment next fits ?_ (step_text f content))
      simp [next, Fragment.events, Fragment.eventsOf_add, Piece.events]
  | other =>
    have fits : Fragment.FitsAll (f.add .other :: around) :=
      fits.add (Nat.le_trans (Nat.le_add_right _ _) fits.1)
    let next : Fragment := ⟨before, f.add .other :: around, misc⟩
    refine .inl (goes_fragment next fits ?_ (step_other f))
    simp [next, Fragment.events, Fragment.eventsOf_add, Piece.events]

/-- After the root there are comments and blanks only. -/
theorem step_after {event : Event} {m : Manuscript} (clean : event.isClean) (fits : m.Fits)
    (opened : event ≠ .closing) :
    Goes m.events ⟨[], some m.entry⟩ event ∨ Ends m.events event := by
  have more (piece : Piece) (misc : piece.IsMisc) (same : piece.events = [event])
      (read : step ⟨[], some m.entry⟩ event = .ok ⟨[], some m.entry⟩) :
      Goes m.events ⟨[], some m.entry⟩ event := by
    let next : Manuscript :=
      { m with after := m.after ++ [piece], after_misc := misc_concat m.after_misc piece misc }
    refine goes_manuscript (m := next) fits ?_ read
    simp [next, Manuscript.events, Piece.eventsOf_append, Piece.eventsOf, same]
  cases event with
  | opening tag => exact .inr fun later => ⟨_, .secondRoot fits (.inl rfl)⟩
  | empty tag => exact .inr fun later => ⟨_, .secondRoot fits (.inr rfl)⟩
  | closing => exact absurd rfl opened
  | text content =>
    cases content with
    | error fault => cases clean
    | ok content =>
      by_cases blank : Unicode.trim content = ""
      · refine .inl (more (.text content) blank rfl ?_)
        simp [step, addText, blank]
      · exact .inr fun later => ⟨_, .textAfter fits blank⟩
  | other => exact .inl (more .other trivial rfl rfl)

theorem Reached.goes_or_ends {event : Event} (reached : Reached events t) (clean : event.isClean)
    (opened : event = .closing → t.opened ≠ []) : Goes events t event ∨ Ends events event := by
  cases reached with
  | fragment u fits =>
    cases inside : u.frames with
    | nil =>
      rw [inside] at opened
      exact step_before clean inside fun closes => opened closes rfl
    | cons f around =>
      rw [← inside]
      exact step_within clean inside fits
  | manuscript m fits => exact step_after clean fits fun closes => opened closes rfl

theorem names_attach {entry : String × Node} {next : XmlTree} (read : t.attach entry = .ok next) :
    next.opened.map (·.name) = t.opened.map (·.name) := by
  unfold attach at read
  split at read
  · next inside =>
    cases read
    rw [inside]
    rfl
  · split at read
    · cases read
    · cases read
      rfl

theorem names_addText {content : String} {next : XmlTree} (read : t.addText content = .ok next) :
    next.opened.map (·.name) = t.opened.map (·.name) := by
  unfold addText at read
  dsimp only at read
  split at read
  · cases read
    rfl
  · split at read
    · next inside =>
      cases read
      rw [inside]
      rfl
    · cases read

theorem length_opened {next : XmlTree}
    (names : next.opened.map (·.name) = t.opened.map (·.name)) :
    next.opened.length = t.opened.length := by
  simpa using congrArg List.length names

theorem openElement_eq_ok {tag : Tag} {next : XmlTree} (read : t.openElement tag = .ok next) :
    ∃ element, Element.ofTag tag = .ok element ∧
      next = { t with opened := element :: t.opened } := by
  unfold openElement at read
  split at read
  · cases read
  · split at read
    · cases read
    · cases found : Element.ofTag tag with
      | error fault =>
        rw [found] at read
        cases read
      | ok element =>
        rw [found] at read
        cases read
        exact ⟨element, rfl, rfl⟩

/-- As many elements are open as the events have left open. -/
theorem matched_step {event : Event} {next : XmlTree} {rest : List Event}
    (read : t.step event = .ok next) (matched : Matched t.opened.length (event :: rest)) :
    Matched next.opened.length rest := by
  cases event with
  | opening tag =>
    obtain ⟨element, _, rfl⟩ := openElement_eq_ok read
    exact matched
  | empty tag =>
    simp only [step] at read
    cases found : Element.ofTag tag with
    | error fault =>
      rw [found] at read
      cases read
    | ok element =>
      rw [found] at read
      have attached : t.attach element.entry = .ok next := read
      rw [length_opened (names_attach attached)]
      exact matched
  | closing =>
    simp only [step, closeElement] at read
    cases inside : t.opened with
    | nil =>
      rw [inside] at matched
      exact matched.elim
    | cons element around =>
      rw [inside] at read matched
      rw [length_opened (names_attach read)]
      exact matched
  | text content =>
    cases content with
    | error fault => cases read
    | ok content =>
      have added : t.addText content = .ok next := read
      rw [length_opened (names_addText added)]
      exact matched
  | other =>
    cases read
    exact matched

theorem reached_or_refused {rest : List Event} (reached : Reached events t)
    (clean : ∀ event ∈ rest, event.isClean) (matched : Matched t.opened.length rest) :
    (∃ last, Reached (events ++ rest) last) ∨ ∃ error, Refused (events ++ rest) error := by
  induction rest generalizing events t with
  | nil =>
    rw [List.append_nil]
    exact .inl ⟨t, reached⟩
  | cons event rest ih =>
    obtain ⟨here, later⟩ := List.forall_mem_cons.mp clean
    have opened : event = .closing → t.opened ≠ [] := by
      rintro rfl unopened
      rw [unopened] at matched
      exact matched
    rcases reached.goes_or_ends here opened with ⟨next, read, reached⟩ | refused
    · have onward := ih reached later (matched_step read matched)
      rwa [List.append_assoc] at onward
    · exact .inr (refused rest)

end XmlTree

namespace Node

open Xml XmlTree

variable {events : List Event} {error : XmlError}

theorem ofEvents_eq_document {t : XmlTree} (read : run {} events = .ok t) :
    ofEvents ⟨events, none⟩ = t.document := by
  unfold run at read
  rw [ofEvents, read]
  rfl

theorem ofEvents_eq_error {before later : List Event} {event : Event} {t : XmlTree}
    (read : run {} before = .ok t) (fails : t.step event = .error error) :
    ofEvents ⟨before ++ event :: later, none⟩ = .error error := by
  unfold run at read
  rw [ofEvents, List.foldlM_append, read]
  show ((event :: later).foldlM XmlTree.step t >>= _) = _
  rw [List.foldlM_cons, fails]
  rfl

theorem ofEvents_refused (refused : Refused events error)
    (clean : ∀ event ∈ events, event.isClean) : ofEvents ⟨events, none⟩ = .error error := by
  cases refused with
  | @noRoot u outside =>
    have fits : u.Fits := by
      rw [Fragment.Fits, outside]
      trivial
    rw [ofEvents_eq_document (run_fragment fits), outside]
    rfl
  | @unclosed u f around inside fits =>
    rw [ofEvents_eq_document (run_fragment fits), inside]
    rfl
  | @tooDeep u tag later fits full =>
    refine ofEvents_eq_error (run_fragment fits) ?_
    simp [XmlTree.step, openElement, full]
  | @textBefore u content later outside visible =>
    have fits : u.Fits := by
      rw [Fragment.Fits, outside]
      trivial
    refine ofEvents_eq_error (run_fragment fits) ?_
    simp [XmlTree.step, addText, outside, visible]
  | textAfter fits visible =>
    refine ofEvents_eq_error (run_manuscript fits) ?_
    simp [XmlTree.step, addText, visible]
  | @secondRoot m event tag later fits begins =>
    refine ofEvents_eq_error (run_manuscript fits) ?_
    rcases begins with rfl | rfl
    · rfl
    · have here := clean (.empty tag) (by simp)
      obtain ⟨name, attributes, rfl⟩ := attributes_of_isOk here
      rfl

theorem written_or_refused (clean : ∀ event ∈ events, event.isClean) (matched : Matched 0 events) :
    (∃ m : Manuscript, m.events = events ∧ m.Fits) ∨ ∃ error, Refused events error := by
  let nothing : Fragment := ⟨[], [], by simp⟩
  have start : Reached [] {} := .fragment nothing trivial
  rcases reached_or_refused start clean matched with ⟨last, reached⟩ | refused
  · rw [List.nil_append] at reached
    cases reached with
    | fragment u fits =>
      cases inside : u.frames with
      | nil => exact .inr ⟨_, .noRoot inside⟩
      | cons f around => exact .inr ⟨_, .unclosed inside fits⟩
    | manuscript m fits => exact .inl ⟨m, rfl, fits⟩
  · exact .inr refused

/-- Events whose tags match are read if they are those of a document as it is written, in which no
element lies too deep, and give what the document stands for. All others are refused for the reason
that lies where they cease to be the beginning of a document. -/
theorem ofEvents_eq_iff (clean : ∀ event ∈ events, event.isClean) (matched : Matched 0 events) :
    (∀ node, ofEvents ⟨events, none⟩ = .ok node ↔
      ∃ m : Manuscript, m.events = events ∧ m.Fits ∧ m.node = node) ∧
    ∀ error, ofEvents ⟨events, none⟩ = .error error ↔ Refused events error := by
  refine ⟨fun node => ⟨fun read => ?_, ?_⟩, fun error => ⟨fun read => ?_, fun refused => ?_⟩⟩
  · rcases written_or_refused clean matched with ⟨m, rfl, fits⟩ | ⟨error, refused⟩
    · exact ⟨m, rfl, fits, Except.ok.inj ((ofEvents_manuscript fits).symm.trans read)⟩
    · cases (ofEvents_refused refused clean).symm.trans read
  · rintro ⟨m, rfl, fits, rfl⟩
    exact ofEvents_manuscript fits
  · rcases written_or_refused clean matched with ⟨m, rfl, fits⟩ | ⟨other, refused⟩
    · cases (ofEvents_manuscript fits).symm.trans read
    · rwa [← Except.error.inj ((ofEvents_refused refused clean).symm.trans read)]
  · exact ofEvents_refused refused clean

/-- Comments around the root and in it leave no trace; a second root does not go unseen. -/
theorem ofEvents_eq_iff_sampled :
    let whole := (Events.ofString "<?xml?><a k='1'> x <b/><!-- c -->y</a> ").list
    let twice := (Events.ofString "<a/><b>").list
    (∀ event ∈ whole, event.isClean) ∧ Matched 0 whole ∧
      ofEvents ⟨whole, none⟩ = .ok (.mapping [("a", .mapping
        [("@k", .string "1"), ("b", .string ""), ("#text", .string "x y")])]) ∧
      ofEvents ⟨twice, none⟩ = .error (.multipleRoots "b") := by
  intro whole twice
  have matched : Matched 0 whole := Events.matched_ofString _
  have matched' : Matched 0 twice := Events.matched_ofString _
  let content : List Piece := [.text "x", .empty "b" [], .other, .text "y"]
  let m : Manuscript := ⟨[.other], .element "a" [("k", "1")] content, [], _,
    by simp [Piece.IsMisc], by simp, rfl⟩
  let first : Manuscript := ⟨[], .empty "a" [], [], _, by simp, by simp, rfl⟩
  have written : m.events = whole := rfl
  have written' : first.events ++ [.opening ⟨"b", .ok []⟩] = twice := rfl
  have clean : ∀ event ∈ whole, event.isClean := by
    rw [← written]
    decide
  have clean' : ∀ event ∈ twice, event.isClean := by
    rw [← written']
    decide
  have refused : Refused twice (.multipleRoots "b") := by
    rw [← written']
    exact .secondRoot (by decide) (.inl rfl)
  refine ⟨clean, matched, ?_, ?_⟩
  · exact ((ofEvents_eq_iff clean matched).1 _).mpr ⟨m, written, by decide, rfl⟩
  · exact ((ofEvents_eq_iff clean' matched').2 _).mpr refused

end Node

end Attest
