import Attest.Proofs.Document.Elements
import Attest.Proofs.Unicode.Trimming
import Attest.Proofs.Xml.Markup
import Attest.Proofs.Xml.References
/-!
# Text of elements

Text up to markup is added to the element around it without the blanks on either side, and a blank
comes before it unless it is the first.
-/

namespace Attest

/-! ### Blanks around text -/

namespace Unicode

variable {cs ds : List Char} {c d : Char}

/-- What stands between two characters that are no blanks is kept. -/
theorem trimChars_around (last : cs.getLast? = some c) (first : ds.head? = some d)
    (closed : isBlank c = false) (opens : isBlank d = false) (middle : List Char) :
    trimChars (cs ++ (middle ++ ds)) = trimChars cs ++ (middle ++ trimChars ds) := by
  obtain ⟨front, rfl⟩ := List.getLast?_eq_some_iff.mp last
  obtain ⟨back, rfl⟩ := List.head?_eq_some_iff.mp first
  have before : trimChars (front ++ [c]) = front.dropWhile isBlank ++ [c] := by
    have kept := dropWhile_concat_append closed front []
    rw [List.append_nil, List.append_nil] at kept
    rw [trimChars_eq, kept, List.rdropWhile_concat_neg _ _ _ (by simp [closed])]
  have after : trimChars (d :: back) = d :: back.rdropWhile isBlank := by
    rw [trimChars_eq, List.dropWhile_cons_of_neg (by simp [opens])]
    exact rdropWhile_append_cons opens [] back
  rw [before, after, trimChars_eq, dropWhile_concat_append closed, ← List.append_assoc,
    rdropWhile_append_cons opens]
  simp

/-- Two texts without blanks around them, one after the other. -/
def joined (cs ds : List Char) : List Char :=
  if cs = [] then ds else if ds = [] then cs else cs ++ ' ' :: ds

/-- No blank is next to the place between the two texts. -/
def Bare (cs ds : List Char) : Prop :=
  (cs.getLast?.all fun c => !isBlank c) ∧ ds.head?.all fun d => !isBlank d

/-- Either nothing stands on one side of a bare place, or text that ends and begins there. -/
theorem Bare.cases (bare : Bare cs ds) :
    (cs = [] ∨ ds = []) ∨
      cs ≠ [] ∧ ds ≠ [] ∧ trimChars cs ≠ [] ∧ trimChars ds ≠ [] ∧
        ∀ middle, trimChars (cs ++ (middle ++ ds)) = trimChars cs ++ (middle ++ trimChars ds) := by
  obtain ⟨closes, opens⟩ := bare
  cases last : cs.getLast? with
  | none => exact .inl (.inl (List.getLast?_eq_none_iff.mp last))
  | some c =>
    cases first : ds.head? with
    | none => exact .inl (.inr (List.head?_eq_none_iff.mp first))
    | some d =>
      have closed : isBlank c = false := by simpa [last] using closes
      have opened : isBlank d = false := by simpa [first] using opens
      have before : c ∈ cs := List.mem_of_getLast? last
      have after : d ∈ ds := List.mem_of_head? first
      exact .inr ⟨List.ne_nil_of_mem before, List.ne_nil_of_mem after,
        trimChars_ne_nil before closed, trimChars_ne_nil after opened,
        trimChars_around last first closed opened⟩

theorem trimChars_append_eq_nil_iff :
    trimChars (cs ++ ds) = [] ↔ joined (trimChars cs) (trimChars ds) = [] := by
  have either : joined (trimChars cs) (trimChars ds) = [] ↔
      trimChars cs = [] ∧ trimChars ds = [] := by
    unfold joined
    split
    · next blank => simp [blank]
    · next visible =>
      split
      · simp [visible]
      · simp [visible]
  rw [either, trimChars_eq_nil_iff, trimChars_eq_nil_iff, trimChars_eq_nil_iff,
    List.forall_mem_append]

theorem trimChars_blank_between (bare : Bare cs ds) :
    trimChars (cs ++ ' ' :: ds) = joined (trimChars cs) (trimChars ds) := by
  have blank : ∀ c ∈ [' '], isBlank c := List.forall_mem_singleton.mpr (by decide)
  rcases bare.cases with (rfl | rfl) | ⟨_, _, left, right, around⟩
  · exact trimChars_blank_append blank ds
  · rw [trimChars_append_blank cs blank]
    unfold joined
    split
    · next empty =>
      rw [empty]
      rfl
    · rfl
  · rw [joined, if_neg left, if_neg right]
    exact around [' ']

theorem trimChars_append_eq_joined_iff (bare : Bare cs ds) :
    trimChars (cs ++ ds) = joined (trimChars cs) (trimChars ds) ↔ cs = [] ∨ ds = [] := by
  rcases bare.cases with (rfl | rfl) | ⟨nonempty, more, left, right, around⟩
  · simp [joined, trimChars]
  · have trimmed : trimChars [] = [] := rfl
    rw [List.append_nil, joined, trimmed, if_pos rfl]
    simp
  · have closer : trimChars (cs ++ ds) = trimChars cs ++ trimChars ds := around []
    rw [closer, joined, if_neg left, if_neg right]
    constructor
    · intro same
      have longer := congrArg List.length same
      simp at longer
    · rintro (rfl | rfl)
      · exact absurd rfl nonempty
      · exact absurd rfl more

end Unicode

/-! ### Text in an element -/

namespace Element

variable {e : Element}

theorem addText_text (e : Element) (text : String) :
    (e.addText text).text = if e.text = "" then text else e.text ++ (" " ++ text) := by
  simp [addText, String.isEmpty_iff, String.append_assoc]

theorem addText_ofList {cs : List Char} (nonempty : cs ≠ []) (ds : List Char) :
    (e.addText (String.ofList cs)).addText (String.ofList ds) =
      e.addText (String.ofList (cs ++ ' ' :: ds)) := by
  have blank : " " ++ String.ofList ds = String.ofList (' ' :: ds) := by
    rw [← List.singleton_append, String.ofList_append]
  have filled : (e.addText (String.ofList cs)).text ≠ "" := by
    rw [addText_text]
    split
    · simpa using nonempty
    · simp
  have text : ((e.addText (String.ofList cs)).addText (String.ofList ds)).text =
      (e.addText (String.ofList (cs ++ ' ' :: ds))).text := by
    rw [addText_text, if_neg filled, addText_text, addText_text, blank]
    split
    · rw [String.ofList_append]
    · rw [String.ofList_append, String.append_assoc, String.append_assoc]
  exact congrArg (fun text => { e with text := text }) text

end Element

/-! ### Text between markup -/

namespace XmlTree

open Xml

variable {t u : XmlTree} {cs ds run : List Char}

/-- Adds text without blanks around it to the innermost element, if there is any text. -/
def put (t : XmlTree) (cs : List Char) : Except XmlError XmlTree :=
  if cs = [] then .ok t
  else
    match t.opened with
    | element :: around =>
      .ok { t with opened := element.addText (String.ofList cs) :: around }
    | [] => .error (.textOutsideRoot (String.ofList cs))

theorem addText_eq_put (t : XmlTree) (ds : List Char) :
    t.addText (String.ofList ds) = t.put (Unicode.trimChars ds) := by
  have trimmed : Unicode.trim (String.ofList ds) = String.ofList (Unicode.trimChars ds) := by
    rw [Unicode.trim, String.toList_ofList]
  unfold XmlTree.addText put
  dsimp only
  rw [trimmed]
  by_cases blank : Unicode.trimChars ds = []
  · rw [blank, if_pos rfl]
    exact if_pos rfl
  · rw [if_neg blank]
    exact if_neg (by simpa [String.isEmpty_iff] using blank)

theorem put_cons (nonempty : cs ≠ []) (e : Element) (around : List Element)
    (root : Option (String × Node)) :
    put ⟨e :: around, root⟩ cs = .ok ⟨e.addText (String.ofList cs) :: around, root⟩ :=
  if_neg nonempty

theorem put_put (inside : t.opened ≠ []) (cs ds : List Char) :
    (t.put cs >>= fun u => u.put ds) = t.put (Unicode.joined cs ds) := by
  obtain ⟨opened, root⟩ := t
  cases opened with
  | nil => exact absurd rfl inside
  | cons e around =>
    unfold Unicode.joined
    by_cases empty : cs = []
    · rw [if_pos empty, put, if_pos empty]
      rfl
    · rw [if_neg empty, put_cons empty]
      change put ⟨e.addText (String.ofList cs) :: around, root⟩ ds = _
      by_cases last : ds = []
      · rw [if_pos last, put, if_pos last, put_cons empty]
      · have both : cs ++ ' ' :: ds ≠ [] := by simp
        rw [if_neg last, put_cons last, put_cons both, Element.addText_ofList empty]

theorem ok_of_bind {α β : Type} {x : Except XmlError α} {next : α → Except XmlError β} {b : β}
    (read : (x >>= next) = .ok b) : ∃ a, x = .ok a ∧ next a = .ok b := by
  cases x with
  | error error => cases read
  | ok a => exact ⟨a, rfl, read⟩

theorem run_singleton (t : XmlTree) (event : Event) : t.run [event] = t.step event := by
  rw [XmlTree.run, List.foldlM_cons]
  exact bind_pure _

theorem ofText_plain (plain : '<' ∉ run) :
    Events.ofText run = if trimEnd (run.dropWhile isSpace) = [] then []
      else [.text ((unescape (trimEnd (run.dropWhile isSpace))).map String.ofList)] := by
  have inner : '<' ∉ run.dropWhile isSpace :=
    fun member => plain ((List.dropWhile_sublist _).mem member)
  rw [Events.ofText, Events.takeWhile_run inner]
  split
  · next blank => rw [if_pos blank]
  · next visible => rw [if_neg visible]

/-- Text up to markup is added to the element around it as what it stands for. -/
theorem run_ofText (plain : '<' ∉ run) (decoded : unescape run = .ok ds) (t : XmlTree) :
    t.run (Events.ofText run) = t.put (Unicode.trimChars ds) := by
  obtain ⟨before, after, leading, trailing, whole⟩ := decodeFrom_trimmed run
  rw [unescape_eq_ok_iff.mp decoded] at whole
  obtain ⟨content, found, rfl⟩ := Option.map_eq_some_iff.mp whole.symm
  have same : Unicode.trimChars (before ++ (content ++ after)) = Unicode.trimChars content := by
    rw [Unicode.trimChars_blank_append fun c member => isBlank_of_isSpace (leading c member),
      Unicode.trimChars_append_blank _ fun c member => isBlank_of_isSpace (trailing c member)]
  rw [same, ofText_plain plain]
  split
  · next blank =>
    rw [blank] at found
    cases found
    rfl
  · have event : unescape (trimEnd (run.dropWhile isSpace)) = .ok content :=
      unescape_eq_ok_iff.mpr found
    rw [event, ← addText_eq_put]
    exact run_singleton t (.text (.ok (String.ofList content)))

theorem unescape_of_run_ofText (plain : '<' ∉ run) (read : t.run (Events.ofText run) = .ok u) :
    ∃ ds, unescape run = .ok ds := by
  obtain ⟨before, after, _, _, whole⟩ := decodeFrom_trimmed run
  obtain ⟨content, found⟩ : ∃ content,
      decodeFrom none (trimEnd (run.dropWhile isSpace)) = some content := by
    rw [ofText_plain plain] at read
    split at read
    · next blank =>
      rw [blank]
      exact ⟨[], rfl⟩
    · cases event : unescape (trimEnd (run.dropWhile isSpace)) with
      | error fault =>
        rw [event] at read
        cases read
      | ok content => exact ⟨content, unescape_eq_ok_iff.mp event⟩
  rw [found] at whole
  exact ⟨_, unescape_eq_ok_iff.mpr whole⟩

/-! ### Documents from a tree on -/

/-- The document that further events lead to. -/
def reading (t : XmlTree) (events : Events) : Except XmlError Node := do
  let last ← t.run events.list
  match events.fault with
  | some fault => throw (.markup fault)
  | none => last.document

theorem reading_foldr (t : XmlTree) (events : List Event) (later : Events) :
    t.reading (events.foldr Events.cons later) = t.run events >>= fun u => u.reading later := by
  induction events generalizing t with
  | nil => rfl
  | cons event events ih =>
    have onward : t.reading ((event :: events).foldr Events.cons later) =
        t.step event >>= fun u => u.reading (events.foldr Events.cons later) := by
      rw [List.foldr_cons, reading, Events.cons, XmlTree.run, List.foldlM_cons, bind_assoc]
      rfl
    simp only [onward, ih, XmlTree.run, List.foldlM_cons, bind_assoc]

theorem reading_text (opened : List String) (plain : '<' ∉ run) (decoded : unescape run = .ok ds)
    {after : List Char} (stops : after.head? = some '<') (t : XmlTree) :
    t.reading (Events.all opened (run ++ after)) =
      t.put (Unicode.trimChars ds) >>= fun u => u.reading (Events.all opened after) := by
  rw [Events.all_append opened plain stops, reading_foldr, run_ofText plain decoded]

theorem reading_comment {inside : List Char} (inner : ¬ ['-', '-', '>'] <:+: inside)
    (opened : List String) (rest : List Char) (t : XmlTree) :
    t.reading (Events.all opened ('<' :: (commentOf inside ++ rest))) =
      t.reading (Events.all opened rest) := by
  rw [Events.all_commentOf inner]
  exact reading_foldr t [.other] (Events.all opened rest)

end XmlTree

theorem Node.ofEvents_eq_reading (events : Xml.Events) :
    ofEvents events = ({} : XmlTree).reading events := rfl

end Attest
