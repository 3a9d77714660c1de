import Attest.Proofs.Document.Content
/-!
# Differences between documents

What is read after two different texts leaves the difference where it is, so the documents differ
too.
-/

namespace Attest

/-! ### Elements apart -/

namespace Element

variable {e e' : Element}

/-- Two elements that are written alike but for a text or for what children stand for. -/
structure Apart (e e' : Element) : Prop where
  name : e.name = e'.name
  attributes : e.attributes = e'.attributes
  children : e.children.length = e'.children.length
  text : e.text = "" ↔ e'.text = ""
  differs : e.children = e'.children → e.text ≠ e'.text

theorem apart_addText (e : Element) {text text' : String} (nonempty : text ≠ "")
    (nonempty' : text' ≠ "") (different : text ≠ text') : Apart (e.addText text) (e.addText text') where
  name := rfl
  attributes := rfl
  children := rfl
  text := by
    rw [addText_text, addText_text]
    split
    · exact ⟨fun empty => absurd empty nonempty, fun empty => absurd empty nonempty'⟩
    · simp
  differs := by
    intro _
    rw [addText_text, addText_text]
    split
    · exact different
    · simpa using different

theorem apart_addChild (e : Element) (name : String) {n n' : Node} (different : n ≠ n') :
    Apart (e.addChild (name, n)) (e.addChild (name, n')) where
  name := rfl
  attributes := rfl
  children := by simp [addChild]
  text := .rfl
  differs := by
    intro same
    simp only [addChild, List.append_cancel_left_eq, List.cons.injEq, Prod.mk.injEq, true_and,
      and_true] at same
    exact absurd same different

theorem Apart.addText (apart : Apart e e') (text : String) :
    Apart (e.addText text) (e'.addText text) where
  name := apart.name
  attributes := apart.attributes
  children := apart.children
  text := by
    rw [addText_text, addText_text]
    by_cases empty : e.text = ""
    · rw [if_pos empty, if_pos (apart.text.mp empty)]
    · rw [if_neg empty, if_neg (mt apart.text.mpr empty)]
      simp
  differs := by
    intro same
    have different := apart.differs same
    rw [addText_text, addText_text]
    by_cases empty : e.text = ""
    · exact absurd (empty.trans (apart.text.mp empty).symm) different
    · rw [if_neg empty, if_neg (mt apart.text.mpr empty)]
      simpa using different

theorem Apart.addChild (apart : Apart e e') (child : String × Node) :
    Apart (e.addChild child) (e'.addChild child) where
  name := apart.name
  attributes := apart.attributes
  children := by simp [Element.addChild, apart.children]
  text := apart.text
  differs same := apart.differs (List.append_cancel_right same)

theorem node_eq (e : Element) :
    e.node = if e.attributes = [] ∧ e.children = [] then .string e.text
      else .mapping (e.attributes ++ e.children ++
        if e.text = "" then [] else [(textKey, .string e.text)]) := by
  simp [node, String.isEmpty_iff]

theorem Apart.node_ne (apart : Apart e e') : e.node ≠ e'.node := by
  intro same
  have childless : e.children = [] ↔ e'.children = [] := by
    rw [← List.length_eq_zero_iff, ← List.length_eq_zero_iff, apart.children]
  rw [node_eq, node_eq, ← apart.attributes] at same
  by_cases leaf : e.attributes = [] ∧ e.children = []
  · rw [if_pos leaf, if_pos ⟨leaf.1, childless.mp leaf.2⟩] at same
    have children : e.children = e'.children := leaf.2.trans (childless.mp leaf.2).symm
    exact apart.differs children (Node.string.inj same)
  · have branch : ¬ (e.attributes = [] ∧ e'.children = []) :=
      fun leaf' => leaf ⟨leaf'.1, childless.mpr leaf'.2⟩
    rw [if_neg leaf, if_neg branch, List.append_assoc, List.append_assoc] at same
    have entries := List.append_cancel_left (Node.mapping.inj same)
    obtain ⟨children, texts⟩ := List.append_inj entries apart.children
    refine apart.differs children ?_
    by_cases empty : e.text = ""
    · exact empty.trans (apart.text.mp empty).symm
    · rw [if_neg empty, if_neg (mt apart.text.mpr empty)] at texts
      simpa using texts

end Element

/-! ### Trees apart -/

namespace XmlTree

open Xml

variable {t u : XmlTree} {cs ds : List Char}

/-- Two trees that differ in one open element, or in what an element that is the root stands for. -/
inductive Apart : XmlTree → XmlTree → Prop
  | within (inner around : List Element) (root : Option (String × Node)) {e e' : Element}
      (apart : e.Apart e') : Apart ⟨inner ++ e :: around, root⟩ ⟨inner ++ e' :: around, root⟩
  | closed (opened : List Element) (name : String) {n n' : Node} (different : n ≠ n') :
      Apart ⟨opened, some (name, n)⟩ ⟨opened, some (name, n')⟩

/-- Where one of two trees goes, the other goes too, and they stay apart. -/
def Parallel (x y : Except XmlError XmlTree) : Prop :=
  ∀ t, x = .ok t → ∃ u, y = .ok u ∧ Apart t u

theorem parallel_error (error : XmlError) (y : Except XmlError XmlTree) :
    Parallel (.error error) y := by
  intro t read
  cases read

theorem Apart.parallel (apart : Apart t u) : Parallel (.ok t) (.ok u) := by
  intro t read
  cases read
  exact ⟨u, rfl, apart⟩

theorem Apart.attach (apart : Apart t u) (entry : String × Node) :
    Parallel (t.attach entry) (u.attach entry) := by
  cases apart with
  | within inner around root apart =>
    cases inner with
    | nil => exact (Apart.within [] around root (apart.addChild entry)).parallel
    | cons first inner =>
      exact (Apart.within (first.addChild entry :: inner) around root apart).parallel
  | closed opened name different =>
    cases opened with
    | nil => exact parallel_error _ _
    | cons first around =>
      exact (Apart.closed (first.addChild entry :: around) name different).parallel

theorem parallel_attach (t : XmlTree) (name : String) {n n' : Node} (different : n ≠ n') :
    Parallel (t.attach (name, n)) (t.attach (name, n')) := by
  obtain ⟨opened, root⟩ := t
  cases opened with
  | nil =>
    cases root with
    | none => exact (Apart.closed [] name different).parallel
    | some root => exact parallel_error _ _
  | cons first around =>
    exact (Apart.within [] around root (first.apart_addChild name different)).parallel

theorem Apart.addText (apart : Apart t u) (text : String) :
    Parallel (t.addText text) (u.addText text) := by
  by_cases blank : (Unicode.trim text).isEmpty
  · simp only [XmlTree.addText, if_pos blank]
    exact apart.parallel
  · simp only [XmlTree.addText, if_neg blank]
    cases apart with
    | within inner around root apart =>
      cases inner with
      | nil => exact (Apart.within [] around root (apart.addText _)).parallel
      | cons first inner =>
        exact (Apart.within (first.addText _ :: inner) around root apart).parallel
    | closed opened name different =>
      cases opened with
      | nil => exact parallel_error _ _
      | cons first around =>
        exact (Apart.closed (first.addText _ :: around) name different).parallel

theorem Apart.guards (apart : Apart t u) :
    t.opened.isEmpty = u.opened.isEmpty ∧ t.opened.length = u.opened.length ∧
      t.root.isSome = u.root.isSome := by
  cases apart with
  | within inner around root apart =>
    cases inner with
    | nil => exact ⟨rfl, rfl, rfl⟩
    | cons first inner => exact ⟨rfl, by simp, rfl⟩
  | closed opened name different => exact ⟨rfl, rfl, rfl⟩

theorem Apart.push (apart : Apart t u) (first : Element) :
    Apart ⟨first :: t.opened, t.root⟩ ⟨first :: u.opened, u.root⟩ := by
  cases apart with
  | within inner around root apart => exact .within (first :: inner) around root apart
  | closed opened name different => exact .closed (first :: opened) name different

theorem Apart.openElement (apart : Apart t u) (tag : Tag) :
    Parallel (t.openElement tag) (u.openElement tag) := by
  obtain ⟨empty, depth, rooted⟩ := apart.guards
  unfold XmlTree.openElement
  rw [← empty, ← depth, ← rooted]
  split
  · exact parallel_error _ _
  · split
    · exact parallel_error _ _
    · cases Element.ofTag tag with
      | error error => exact parallel_error _ _
      | ok element => exact (apart.push element).parallel

theorem Apart.closeElement (apart : Apart t u) : Parallel t.closeElement u.closeElement := by
  cases apart with
  | @within inner around root e e' apart =>
    cases inner with
    | nil =>
      have entry : e'.entry = (e.name, e'.node) := by rw [Element.entry, apart.name]
      have attached := parallel_attach ⟨around, root⟩ e.name apart.node_ne
      rw [← entry] at attached
      exact attached
    | cons first inner => exact (Apart.within inner around root apart).attach first.entry
  | closed opened name different =>
    cases opened with
    | nil => exact (Apart.closed [] name different).parallel
    | cons first around => exact (Apart.closed around name different).attach first.entry

theorem Apart.step (apart : Apart t u) (event : Event) : Parallel (t.step event) (u.step event) := by
  cases event with
  | opening tag => exact apart.openElement tag
  | empty tag =>
    simp only [XmlTree.step]
    cases Element.ofTag tag with
    | error error => exact parallel_error _ _
    | ok element => exact apart.attach element.entry
  | closing => exact apart.closeElement
  | text content =>
    cases content with
    | error fault => exact parallel_error _ _
    | ok content => exact apart.addText content
  | other => exact apart.parallel

theorem Parallel.bind {x y : Except XmlError XmlTree} {next : XmlTree → Except XmlError XmlTree}
    (here : Parallel x y) (onward : ∀ {t u}, Apart t u → Parallel (next t) (next u)) :
    Parallel (x >>= next) (y >>= next) := by
  intro last read
  obtain ⟨t, first, second⟩ := ok_of_bind read
  obtain ⟨u, rfl, apart⟩ := here t first
  exact onward apart last second

theorem Apart.run (apart : Apart t u) (events : List Event) :
    Parallel (t.run events) (u.run events) := by
  induction events generalizing t u with
  | nil => exact apart.parallel
  | cons event events ih =>
    unfold XmlTree.run at ih ⊢
    rw [List.foldlM_cons, List.foldlM_cons]
    exact (apart.step event).bind ih

theorem parallel_put (t : XmlTree) (nonempty : cs ≠ []) (nonempty' : ds ≠ [])
    (different : cs ≠ ds) :
    Parallel (t.put cs) (t.put ds) := by
  obtain ⟨opened, root⟩ := t
  cases opened with
  | nil =>
    rw [put, if_neg nonempty]
    exact parallel_error _ _
  | cons e around =>
    have apart : (e.addText (String.ofList cs)).Apart (e.addText (String.ofList ds)) :=
      e.apart_addText (by simpa using nonempty) (by simpa using nonempty')
        fun same => different (String.ofList_injective same)
    rw [put_cons nonempty, put_cons nonempty']
    exact (Apart.within [] around root apart).parallel

/-- Trees apart stand for different documents. -/
theorem Apart.document (apart : Apart t u) {document : Node} (read : t.document = .ok document) :
    ∃ other, u.document = .ok other ∧ other ≠ document := by
  cases apart with
  | within inner around root apart =>
    cases inner with
    | nil => cases read
    | cons first inner => cases read
  | @closed opened name n n' different =>
    cases opened with
    | nil =>
      cases read
      refine ⟨_, rfl, fun same => different ?_⟩
      simpa using same.symm
    | cons first around => cases read

theorem Apart.reading (apart : Apart t u) {events : Events} {document : Node}
    (read : t.reading events = .ok document) :
    ∃ other, u.reading events = .ok other ∧ other ≠ document := by
  obtain ⟨last, ends, onward⟩ := ok_of_bind read
  obtain ⟨last', ends', apart⟩ := apart.run events.list last ends
  rw [XmlTree.reading, ends']
  cases fault : events.fault with
  | some fault' =>
    rw [fault] at onward
    cases onward
  | none =>
    rw [fault] at onward
    exact apart.document onward

end XmlTree

end Attest
