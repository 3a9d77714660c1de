import Attest.Unicode.Blank
import Attest.Xml.Event
/-!
# Text with references

Of a text that is decoded every part between references is decoded by itself, so the blanks around a
text can be taken away before or after.
-/

namespace Attest.Xml

variable {total offset : Nat} {opened : Option (List Char)} {cs ds more : List Char} {c : Char}

/-! ### Decoding -/

/-- What characters stand for after an `&` with part of its name, newest first, if one is open. -/
def decodeFrom (opened : Option (List Char)) : List Char → Option (List Char)
  | [] =>
    match opened with
    | none => some []
    | some _ => none
  | c :: rest =>
    match opened with
    | none => if c = '&' then decodeFrom (some []) rest else (decodeFrom none rest).map (c :: ·)
    | some name =>
      if c = ';' then
        (resolve 0 name.reverse).toOption.bind fun d => (decodeFrom none rest).map (d :: ·)
      else if c = '&' then none
      else decodeFrom (some (c :: name)) rest

theorem toOption_resolve (start : Nat) (name : List Char) :
    (resolve start name).toOption = (resolve 0 name).toOption := by
  unfold resolve
  split
  · rfl
  · split
    · rfl
    · rfl

/-- Places matter to faults only. -/
theorem toOption_unescapeFrom (total : Nat) (opened : Option (Nat × List Char)) (offset : Nat)
    (cs : List Char) :
    (unescapeFrom total opened offset cs).toOption = decodeFrom (opened.map Prod.snd) cs := by
  have mapped (x : Except EscapeFault (List Char)) (f : List Char → List Char) :
      (x.map f).toOption = x.toOption.map f := by
    cases x <;> rfl
  induction cs generalizing opened offset with
  | nil =>
    cases opened with
    | none => rfl
    | some entry => rfl
  | cons c cs ih =>
    cases opened with
    | none =>
      rw [unescapeFrom, Option.map_none, decodeFrom]
      split
      · exact ih _ _
      · rw [mapped, ih]
        rfl
    | some entry =>
      obtain ⟨start, name⟩ := entry
      rw [unescapeFrom, Option.map_some, decodeFrom]
      split
      · have same := toOption_resolve (start + 1) name.reverse
        cases found : resolve (start + 1) name.reverse with
        | ok d =>
          rw [found] at same
          rw [← same]
          dsimp only
          rw [mapped, ih]
          rfl
        | error fault =>
          rw [found] at same
          rw [← same]
          rfl
      · split
        · rfl
        · exact ih _ _

theorem unescape_eq_ok_iff : unescape cs = .ok ds ↔ decodeFrom none cs = some ds := by
  have same := toOption_unescapeFrom (Text.byteCount cs) none 0 cs
  rw [Option.map_none] at same
  rw [← same]
  unfold unescape
  cases unescapeFrom (Text.byteCount cs) none 0 cs with
  | ok found => simp [Except.toOption]
  | error fault => simp [Except.toOption]

/-- What comes after decoded characters is decoded by itself. -/
theorem decodeFrom_append (decoded : decodeFrom opened cs = some ds) (more : List Char) :
    decodeFrom opened (cs ++ more) = (decodeFrom none more).map (ds ++ ·) := by
  induction cs generalizing opened ds with
  | nil =>
    cases opened with
    | none =>
      cases decoded
      simp
    | some name => cases decoded
  | cons c cs ih =>
    rw [List.cons_append]
    cases opened with
    | none =>
      rw [decodeFrom] at decoded ⊢
      by_cases reference : c = '&'
      · rw [if_pos reference] at decoded ⊢
        exact ih decoded
      · rw [if_neg reference] at decoded ⊢
        obtain ⟨later, found, rfl⟩ := Option.map_eq_some_iff.mp decoded
        rw [ih found, Option.map_map]
        rfl
    | some name =>
      rw [decodeFrom] at decoded ⊢
      by_cases ends : c = ';'
      · rw [if_pos ends] at decoded ⊢
        obtain ⟨d, stands, rest⟩ := Option.bind_eq_some_iff.mp decoded
        obtain ⟨later, found, rfl⟩ := Option.map_eq_some_iff.mp rest
        rw [stands, Option.bind_some, ih found, Option.map_map]
        rfl
      · rw [if_neg ends] at decoded ⊢
        by_cases reference : c = '&'
        · rw [if_pos reference] at decoded
          cases decoded
        · rw [if_neg reference] at decoded ⊢
          exact ih decoded

theorem unescape_append {es : List Char} (first : unescape cs = .ok ds)
    (second : unescape more = .ok es) : unescape (cs ++ more) = .ok (ds ++ es) := by
  rw [unescape_eq_ok_iff] at first second ⊢
  rw [decodeFrom_append first, second]
  rfl

/-! ### Spaces around a text -/

variable {spaces : List Char}

theorem ne_of_isSpace (space : isSpace c) : c ≠ ';' ∧ c ≠ '&' := by
  constructor
  · rintro rfl
    cases space
  · rintro rfl
    cases space

theorem isBlank_of_isSpace (space : isSpace c) : Unicode.isBlank c := by
  simp only [isSpace, Bool.or_eq_true, beq_iff_eq] at space
  rcases space with ((rfl | rfl) | rfl) | rfl
  all_goals decide

/-- Spaces stand for themselves, and they end no reference. -/
theorem decodeFrom_spaces (only : ∀ c ∈ spaces, isSpace c) (opened : Option (List Char)) :
    decodeFrom opened spaces = if opened = none then some spaces else none := by
  induction spaces generalizing opened with
  | nil => cases opened with
    | none => rfl
    | some name => rfl
  | cons c spaces ih =>
    obtain ⟨space, later⟩ := List.forall_mem_cons.mp only
    obtain ⟨ends, begins⟩ := ne_of_isSpace space
    cases opened with
    | none =>
      rw [decodeFrom, if_neg begins, ih later]
      rfl
    | some name =>
      rw [decodeFrom, if_neg ends, if_neg begins, ih later]
      rfl

theorem decodeFrom_append_spaces (only : ∀ c ∈ spaces, isSpace c) (opened : Option (List Char))
    (cs : List Char) :
    decodeFrom opened (cs ++ spaces) = (decodeFrom opened cs).map (· ++ spaces) := by
  induction cs generalizing opened with
  | nil =>
    rw [List.nil_append, decodeFrom_spaces only]
    cases opened with
    | none => rfl
    | some name => rfl
  | cons c cs ih =>
    rw [List.cons_append]
    cases opened with
    | none =>
      rw [decodeFrom, decodeFrom]
      split
      · exact ih _
      · rw [ih, Option.map_map, Option.map_map]
        rfl
    | some name =>
      rw [decodeFrom, decodeFrom]
      split
      · rw [ih]
        cases (resolve 0 name.reverse).toOption with
        | none => rfl
        | some d =>
          rw [Option.bind_some, Option.bind_some, Option.map_map, Option.map_map]
          rfl
      · split
        · rfl
        · exact ih _

theorem trimEnd_append (cs : List Char) :
    ∃ spaces, (∀ c ∈ spaces, isSpace c) ∧ trimEnd cs ++ spaces = cs := by
  refine ⟨(cs.reverse.takeWhile isSpace).reverse, ?_, ?_⟩
  · intro c member
    exact List.all_eq_true.mp List.all_takeWhile c (List.mem_reverse.mp member)
  · rw [trimEnd, ← List.reverse_append, List.takeWhile_append_dropWhile, List.reverse_reverse]

theorem decodeFrom_trimmed (cs : List Char) :
    ∃ before after, (∀ c ∈ before, isSpace c) ∧ (∀ c ∈ after, isSpace c) ∧
      decodeFrom none cs =
        (decodeFrom none (trimEnd (cs.dropWhile isSpace))).map fun ds => before ++ (ds ++ after) := by
  obtain ⟨after, spaces, ends⟩ := trimEnd_append (cs.dropWhile isSpace)
  have leading : ∀ c ∈ cs.takeWhile isSpace, isSpace c := List.all_eq_true.mp List.all_takeWhile
  have self : decodeFrom none (cs.takeWhile isSpace) = some (cs.takeWhile isSpace) :=
    decodeFrom_spaces leading none
  refine ⟨cs.takeWhile isSpace, after, leading, spaces, ?_⟩
  calc decodeFrom none cs
      = decodeFrom none (cs.takeWhile isSpace ++ (trimEnd (cs.dropWhile isSpace) ++ after)) := by
        rw [ends, List.takeWhile_append_dropWhile]
    _ = _ := by
        rw [decodeFrom_append self, decodeFrom_append_spaces spaces, Option.map_map]
        rfl

end Attest.Xml
