import Attest.Document.Xml
/-!
# Elements as they are written

A document as it is written gives events, and reading these gives the node that its root stands for.
-/

namespace Attest

namespace Xml

/-- A piece of what stands in an element or around the root. Character data is text. -/
inductive Piece
  /-- An element between a start tag and an end tag. -/
  | element (name : String) (attributes : List (String × String)) (content : List Piece)
  /-- An element that is an empty tag. -/
  | empty (name : String) (attributes : List (String × String))
  | text (content : String)
  /-- A comment, a declaration or a processing instruction. -/
  | other

namespace Piece

/-! ### What pieces stand for -/

/-- The text of a piece without the blanks around it, if anything is left. -/
def text? : Piece → Option String
  | text content => if Unicode.trim content = "" then none else some (Unicode.trim content)
  | _ => none

/-- The texts of pieces with a blank between any two of them. -/
def textOf (pieces : List Piece) : String :=
  " ".intercalate (pieces.filterMap text?)

/-- What an element with these children and this text stands for. -/
def nodeOf (attributes : List (String × String)) (children : List (String × Node))
    (text : String) : Node :=
  if attributes = [] ∧ children = [] then .string text
  else
    .mapping (attributes.map (fun (key, value) => ("@" ++ key, .string value)) ++ children ++
      if text = "" then [] else [("#text", .string text)])

mutual

/-- The name of an element and what it stands for. -/
def member? : Piece → Option (String × Node)
  | element name attributes content =>
    some (name, nodeOf attributes (entriesOf content) (textOf content))
  | empty name attributes => some (name, nodeOf attributes [] "")
  | text _ | other => none

def entriesOf : List Piece → List (String × Node)
  | [] => []
  | piece :: rest => (member? piece).toList ++ entriesOf rest

end

/-! ### How pieces are written -/

mutual

def events : Piece → List Event
  | element name attributes content =>
    .opening ⟨name, .ok attributes⟩ :: (eventsOf content ++ [.closing])
  | empty name attributes => [.empty ⟨name, .ok attributes⟩]
  | text content => [.text (.ok content)]
  | other => [.other]

def eventsOf : List Piece → List Event
  | [] => []
  | piece :: rest => events piece ++ eventsOf rest

end

mutual

/-- How many elements with two tags stand one in the other. -/
def height : Piece → Nat
  | element _ _ content => heightOf content + 1
  | _ => 0

def heightOf : List Piece → Nat
  | [] => 0
  | piece :: rest => max (height piece) (heightOf rest)

end

/-- The piece may stand outside of the root. -/
def IsMisc : Piece → Prop
  | text content => Unicode.trim content = ""
  | other => True
  | _ => False

variable {piece : Piece} {pieces more : List Piece}

/-- An empty tag stands for the same as two tags with nothing between them. -/
theorem member?_element_nil (name : String) (attributes : List (String × String)) :
    (element name attributes []).member? = (empty name attributes).member? := rfl

theorem entriesOf_append : entriesOf (pieces ++ more) = entriesOf pieces ++ entriesOf more := by
  induction pieces with
  | nil => rfl
  | cons piece rest ih => simp only [List.cons_append, entriesOf, ih, List.append_assoc]

theorem eventsOf_append : eventsOf (pieces ++ more) = eventsOf pieces ++ eventsOf more := by
  induction pieces with
  | nil => rfl
  | cons piece rest ih => simp only [List.cons_append, eventsOf, ih, List.append_assoc]

theorem heightOf_append : heightOf (pieces ++ more) = max (heightOf pieces) (heightOf more) := by
  induction pieces with
  | nil => simp [heightOf]
  | cons piece rest ih => simp only [List.cons_append, heightOf, ih, Nat.max_assoc]

@[simp] theorem entriesOf_singleton : entriesOf [piece] = (member? piece).toList := by
  simp [entriesOf]

@[simp] theorem eventsOf_singleton : eventsOf [piece] = events piece := by
  simp [eventsOf]

@[simp] theorem heightOf_singleton : heightOf [piece] = height piece := by
  simp [heightOf]

theorem text?_ne_empty {content : String} (present : piece.text? = some content) :
    content ≠ "" := by
  unfold text? at present
  split at present
  · split at present
    · cases present
    · next more =>
      cases present
      exact more
  · cases present

theorem intercalate_concat (separator last : String) {texts : List String} (nonempty : texts ≠ []) :
    separator.intercalate (texts ++ [last]) = separator.intercalate texts ++ separator ++ last := by
  induction texts with
  | nil => exact absurd rfl nonempty
  | cons first rest ih =>
    cases rest with
    | nil => simp
    | cons second rest =>
      have later := ih (List.cons_ne_nil second rest)
      rw [List.cons_append] at later
      rw [List.cons_append, List.cons_append, String.intercalate_cons_cons, later,
        String.intercalate_cons_cons]
      simp only [String.append_assoc]

/-- One text more comes after a blank, unless it is the first. -/
theorem textOf_concat (pieces : List Piece) {content : String}
    (present : piece.text? = some content) :
    textOf (pieces ++ [piece]) =
      if textOf pieces = "" then content else textOf pieces ++ " " ++ content := by
  have nonempty : ∀ text ∈ pieces.filterMap text?, text ≠ "" := by
    intro text member
    obtain ⟨source, _, found⟩ := List.mem_filterMap.mp member
    exact text?_ne_empty found
  unfold textOf
  rw [List.filterMap_append, List.filterMap_cons_some present, List.filterMap_nil]
  cases found : pieces.filterMap text? with
  | nil => simp
  | cons first rest =>
    rw [found] at nonempty
    have started : " ".intercalate (first :: rest) ≠ "" := by
      cases rest with
      | nil => simpa using nonempty
      | cons second rest =>
        rw [String.intercalate_cons_cons]
        simp [String.append_eq_empty_iff]
    rw [if_neg started, intercalate_concat " " content (by simp)]

end Piece

/-- A document as it is written: its root with pieces around it. -/
structure Manuscript where
  before : List Piece
  root : Piece
  after : List Piece
  entry : String × Node
  before_misc : ∀ piece ∈ before, piece.IsMisc
  after_misc : ∀ piece ∈ after, piece.IsMisc
  member?_root : root.member? = some entry

namespace Manuscript

def events (m : Manuscript) : List Event :=
  Piece.eventsOf (m.before ++ m.root :: m.after)

/-- What the document stands for: its root under the name of the root. -/
def node (m : Manuscript) : Node :=
  .mapping [m.entry]

/-- No element with two tags lies too deep. -/
def Fits (m : Manuscript) : Prop :=
  m.root.height ≤ maxElementDepth

instance (m : Manuscript) : Decidable m.Fits :=
  inferInstanceAs (Decidable (m.root.height ≤ maxElementDepth))

end Manuscript

/-! ### Elements that are open -/

/-- An element whose end tag is still to come, with the pieces in it so far. -/
structure Frame where
  name : String
  attributes : List (String × String)
  content : List Piece := []

namespace Frame

variable {f : Frame} {piece : Piece} {entry : String × Node} {content : String}

def add (f : Frame) (piece : Piece) : Frame :=
  { f with content := f.content ++ [piece] }

/-- The element once its end tag is there. -/
def close (f : Frame) : Piece :=
  .element f.name f.attributes f.content

/-- What a reader of events keeps of the element. -/
def element (f : Frame) : Element where
  name := f.name
  attributes := f.attributes.map fun (key, value) => ("@" ++ key, .string value)
  children := Piece.entriesOf f.content
  text := Piece.textOf f.content

theorem ofTag_eq_element (name : String) (attributes : List (String × String)) :
    Element.ofTag ⟨name, .ok attributes⟩ = .ok (element ⟨name, attributes, []⟩) := rfl

theorem member?_close (f : Frame) : f.close.member? = some f.element.entry := by
  unfold close Piece.member? Element.entry Element.node Piece.nodeOf element
  by_cases leaf : f.attributes = [] ∧ Piece.entriesOf f.content = []
  · simp [leaf]
  · have kept : ¬ (f.attributes = [] ∧ Piece.entriesOf f.content = []) := leaf
    simp [kept, Element.textKey, String.isEmpty_iff]

theorem element_add_child (child : piece.member? = some entry) :
    (f.add piece).element = f.element.addChild entry := by
  have noText : piece.text? = none := by
    cases piece with
    | text => simp [Piece.member?] at child
    | _ => rfl
  simp [add, element, Element.addChild, Piece.entriesOf_append, Piece.textOf, child, noText]

theorem element_add_blank (noEntry : piece.member? = none) (noText : piece.text? = none) :
    (f.add piece).element = f.element := by
  simp [add, element, Piece.entriesOf_append, Piece.textOf, noEntry, noText]

theorem element_add_text (present : (Piece.text content).text? = some (Unicode.trim content)) :
    (f.add (.text content)).element = f.element.addText (Unicode.trim content) := by
  have later := Piece.textOf_concat f.content present
  simp [add, element, Element.addText, Piece.entriesOf_append, Piece.member?, later]

end Frame

end Xml

/-! ### Reading what is written -/

namespace XmlTree

open Xml

variable {t t' : XmlTree} {event : Event} {events more : List Event}

/-- The tree after some events. -/
def run (t : XmlTree) (events : List Event) : Except XmlError XmlTree :=
  events.foldlM step t

theorem run_cons (read : t.step event = .ok t') : t.run (event :: events) = t'.run events := by
  rw [run, List.foldlM_cons, read]
  rfl

theorem run_append (read : t.run events = .ok t') : t.run (events ++ more) = t'.run more := by
  unfold run at read
  rw [run, List.foldlM_append, read]
  rfl

variable {around : List Element} {root : Option (String × Node)}

theorem step_text (f : Frame) (content : String) :
    step ⟨f.element :: around, root⟩ (.text (.ok content)) =
      .ok ⟨(f.add (.text content)).element :: around, root⟩ := by
  by_cases blank : Unicode.trim content = ""
  · have noText : (Piece.text content).text? = none := if_pos blank
    rw [Frame.element_add_blank rfl noText]
    simp [step, addText, blank]
  · have present : (Piece.text content).text? = some (Unicode.trim content) := if_neg blank
    rw [Frame.element_add_text present]
    simp [step, addText, String.isEmpty_iff, blank]

theorem step_other (f : Frame) :
    step ⟨f.element :: around, root⟩ .other = .ok ⟨(f.add .other).element :: around, root⟩ := by
  rw [Frame.element_add_blank rfl rfl]
  rfl

theorem step_empty (f : Frame) (name : String) (attributes : List (String × String)) :
    step ⟨f.element :: around, root⟩ (.empty ⟨name, .ok attributes⟩) =
      .ok ⟨(f.add (.empty name attributes)).element :: around, root⟩ := by
  have child := Frame.member?_close ⟨name, attributes, []⟩
  rw [Frame.close, Piece.member?_element_nil] at child
  rw [Frame.element_add_child child]
  rfl

theorem step_opening (around : List Element) (root : Option (String × Node)) (name : String)
    (attributes : List (String × String))
    (inside : (around.isEmpty && root.isSome) = false) (fits : around.length < maxElementDepth) :
    step ⟨around, root⟩ (.opening ⟨name, .ok attributes⟩) =
      .ok ⟨(Frame.mk name attributes []).element :: around, root⟩ := by
  have room : ¬ maxElementDepth ≤ around.length := Nat.not_le.mpr fits
  simp only [step, openElement, inside, Bool.false_eq_true, if_false, if_neg room,
    Frame.ofTag_eq_element]
  rfl

theorem step_closing (inner f : Frame) :
    step ⟨inner.element :: f.element :: around, root⟩ .closing =
      .ok ⟨(f.add inner.close).element :: around, root⟩ := by
  rw [Frame.element_add_child inner.member?_close]
  rfl

mutual

theorem run_events (around : List Element) (root : Option (String × Node)) (piece : Piece)
    (f : Frame) (fits : around.length + 1 + piece.height ≤ maxElementDepth) :
    run ⟨f.element :: around, root⟩ piece.events =
      .ok ⟨(f.add piece).element :: around, root⟩ := by
  cases piece with
  | element name attributes content =>
    rw [Piece.height] at fits
    have opens := step_opening (f.element :: around) root name attributes rfl
      (by rw [List.length_cons]; omega)
    have held := run_eventsOf (f.element :: around) root content ⟨name, attributes, []⟩
      (by rw [List.length_cons]; omega)
    rw [Piece.events, run_cons opens, run_append held]
    exact run_cons (step_closing _ f)
  | empty name attributes => exact run_cons (step_empty f name attributes)
  | text content => exact run_cons (step_text f content)
  | other => exact run_cons (step_other f)

theorem run_eventsOf (around : List Element) (root : Option (String × Node)) (pieces : List Piece)
    (f : Frame) (fits : around.length + 1 + Piece.heightOf pieces ≤ maxElementDepth) :
    run ⟨f.element :: around, root⟩ (Piece.eventsOf pieces) =
      .ok ⟨(Frame.mk f.name f.attributes (f.content ++ pieces)).element :: around, root⟩ := by
  cases pieces with
  | nil =>
    rw [List.append_nil]
    rfl
  | cons piece rest =>
    rw [Piece.heightOf] at fits
    have first := run_events around root piece f (by omega)
    have later := run_eventsOf around root rest (f.add piece) (by omega)
    rw [Piece.eventsOf, run_append first, later, Frame.add, List.append_assoc,
      List.singleton_append]

end

/-! ### Documents -/

theorem run_misc {pieces : List Piece} (misc : ∀ piece ∈ pieces, piece.IsMisc) :
    run ⟨[], root⟩ (Piece.eventsOf pieces) = .ok ⟨[], root⟩ := by
  induction pieces with
  | nil => rfl
  | cons piece rest ih =>
    obtain ⟨here, later⟩ := List.forall_mem_cons.mp misc
    have passes : run ⟨[], root⟩ piece.events = .ok ⟨[], root⟩ := by
      cases piece with
      | element | empty => exact here.elim
      | text content =>
        have blank : Unicode.trim content = "" := here
        refine run_cons ?_
        simp [step, addText, blank]
      | other => rfl
    rw [Piece.eventsOf, run_append passes, ih later]

theorem run_root {piece : Piece} {entry : String × Node} (stands : piece.member? = some entry)
    (fits : piece.height ≤ maxElementDepth) :
    run {} piece.events = .ok ⟨[], some entry⟩ := by
  cases piece with
  | element name attributes content =>
    rw [Piece.height] at fits
    have held := run_eventsOf [] none content ⟨name, attributes, []⟩
      (by rw [List.length_nil]; omega)
    have closed := Frame.member?_close ⟨name, attributes, content⟩
    obtain rfl := Option.some.inj (stands.symm.trans closed)
    have opens := step_opening [] none name attributes rfl (by decide)
    rw [Piece.events, run_cons opens, run_append held]
    rfl
  | empty name attributes =>
    have closed := Frame.member?_close ⟨name, attributes, []⟩
    obtain rfl := Option.some.inj (stands.symm.trans closed)
    rfl
  | text | other => cases stands

theorem run_manuscript {m : Manuscript} (fits : m.Fits) :
    run {} m.events = .ok ⟨[], some m.entry⟩ := by
  have before : run {} (Piece.eventsOf m.before) = .ok {} := run_misc m.before_misc
  rw [Manuscript.events, Piece.eventsOf_append, Piece.eventsOf, run_append before,
    run_append (run_root m.member?_root fits), run_misc m.after_misc]

end XmlTree

/-- A document as it is written is read as what it stands for. -/
theorem Node.ofEvents_manuscript {m : Xml.Manuscript} (fits : m.Fits) :
    Node.ofEvents ⟨m.events, none⟩ = .ok m.node := by
  have read := XmlTree.run_manuscript fits
  unfold XmlTree.run at read
  rw [ofEvents, read]
  rfl

end Attest
