import Attest.Document.KeyValue
import Attest.Proofs.Unicode.Trimming
/-!
# Lines of keys and values

Entries are read back from their lines, in order and with repeats, however much blank space, how
many blank lines and how many comments there are. A text is refused exactly for its first line that
neither binds a key nor may be skipped.
-/

namespace Attest

open Unicode

namespace KeyValue

variable {cs before after line : List Char} {lines rest : List (List Char)} {number : Nat}

/-! ### One line -/

theorem entry?_of_not_mem (free : '=' ∉ cs) : entry? cs = none := by
  have keyless : cs.dropWhile (· != '=') = [] := by
    refine List.dropWhile_eq_nil_iff.mpr fun c member => ?_
    simpa using fun same : c = '=' => free (same ▸ member)
  simp only [keyless, entry?]

theorem entry?_split (free : '=' ∉ before) (after : List Char) :
    entry? (before ++ '=' :: after) =
      if trimChars before = [] then none
      else some (String.ofList (trimChars before), .string (String.ofList (trimChars after))) := by
  have other : ∀ c ∈ before, (c != '=') = true := by
    intro c member
    simpa using fun same : c = '=' => free (same ▸ member)
  have key : (before ++ '=' :: after).takeWhile (· != '=') = before := by
    rw [List.takeWhile_append_of_pos other]
    simp
  have value : (before ++ '=' :: after).dropWhile (· != '=') = '=' :: after := by
    rw [List.dropWhile_append_of_pos other]
    simp
  simp only [key, value, entry?, List.isEmpty_iff]

/-- Either there is no `=`, or there is a first one. -/
theorem not_mem_or_split (cs : List Char) :
    '=' ∉ cs ∨ ∃ before after, cs = before ++ '=' :: after ∧ '=' ∉ before := by
  by_cases member : '=' ∈ cs
  · obtain ⟨before, after, same, free⟩ := List.eq_append_cons_of_mem member
    exact .inr ⟨before, after, same, free⟩
  · exact .inl member

/-- The characters have no `=`, or only blanks before the first. -/
def Keyless (cs : List Char) : Prop :=
  '=' ∉ cs ∨ ∃ before after, cs = before ++ '=' :: after ∧ '=' ∉ before ∧ ∀ c ∈ before, isBlank c

theorem entry?_eq_none_iff : entry? cs = none ↔ Keyless cs := by
  constructor
  · intro keyless
    rcases not_mem_or_split cs with free | ⟨before, after, rfl, free⟩
    · exact .inl free
    · rw [entry?_split free] at keyless
      have blank : trimChars before = [] := by simpa using keyless
      exact .inr ⟨before, after, rfl, free, trimChars_eq_nil_iff.mp blank⟩
  · rintro (free | ⟨before, after, rfl, free, blank⟩)
    · exact entry?_of_not_mem free
    · rw [entry?_split free, if_pos (trimChars_eq_nil_iff.mpr blank)]

theorem isSkipped_iff : isSkipped cs = true ↔ cs = [] ∨ cs.head? = some '#' := by
  cases cs <;> simp [isSkipped]

/-- The line, without the blanks around it, is not empty, begins with no `#`, and binds no key. -/
def IsFaulty (line : List Char) : Prop :=
  trimChars line ≠ [] ∧ (trimChars line).head? ≠ some '#' ∧ Keyless (trimChars line)

theorem isFaulty_iff :
    IsFaulty line ↔ isSkipped (trimChars line) = false ∧ entry? (trimChars line) = none := by
  rw [entry?_eq_none_iff, ← Bool.not_eq_true, isSkipped_iff, not_or, and_assoc]
  rfl

/-! ### Line by line -/

theorem entries_skipped (skipped : isSkipped (trimChars line) = true) :
    entries number (line :: rest) = entries (number + 1) rest := by
  simp [entries, skipped]

theorem entries_entry {entry : String × Node} (stands : isSkipped (trimChars line) = false)
    (binds : entry? (trimChars line) = some entry) :
    entries number (line :: rest) = (entries (number + 1) rest).map (entry :: ·) := by
  simp [entries, stands, binds]

theorem entries_faulty (faulty : IsFaulty line) :
    entries number (line :: rest) = .error ⟨number, String.ofList (trimChars line)⟩ := by
  obtain ⟨stands, keyless⟩ := isFaulty_iff.mp faulty
  simp [entries, stands, keyless]

theorem entries_sound (sound : ¬ IsFaulty line) :
    ∃ found, entries number (line :: rest) = (entries (number + 1) rest).map (found ++ ·) := by
  cases skipped : isSkipped (trimChars line) with
  | true =>
    refine ⟨[], ?_⟩
    rw [entries_skipped skipped]
    cases entries (number + 1) rest <;> rfl
  | false =>
    cases binds : entry? (trimChars line) with
    | none => exact absurd (isFaulty_iff.mpr ⟨skipped, binds⟩) sound
    | some entry => exact ⟨[entry], entries_entry skipped binds⟩

/-- Lines are refused for the first of them that is faulty. -/
theorem entries_eq_error_iff {e : KeyValueError} :
    entries number lines = .error e ↔
      ∃ before line after, lines = before ++ line :: after ∧ (∀ l ∈ before, ¬ IsFaulty l) ∧
        IsFaulty line ∧ e = ⟨number + before.length, String.ofList (trimChars line)⟩ := by
  induction lines generalizing number with
  | nil => simp [entries]
  | cons first rest ih =>
    by_cases faulty : IsFaulty first
    · rw [entries_faulty faulty, Except.error.injEq]
      constructor
      · rintro rfl
        exact ⟨[], first, rest, rfl, by simp, faulty, rfl⟩
      · rintro ⟨before, line, after, same, sound, _, rfl⟩
        cases before with
        | nil =>
          obtain ⟨rfl, -⟩ := List.cons.inj same
          rfl
        | cons other before =>
          obtain ⟨rfl, -⟩ := List.cons.inj same
          exact absurd faulty (sound _ List.mem_cons_self)
    · obtain ⟨found, goes⟩ := @entries_sound first rest number faulty
      have kept : entries number (first :: rest) = .error e ↔
          entries (number + 1) rest = .error e := by
        rw [goes]
        cases entries (number + 1) rest <;> simp [Except.map]
      rw [kept, ih]
      constructor
      · rintro ⟨before, line, after, rfl, sound, broken, rfl⟩
        refine ⟨first :: before, line, after, rfl, ?_, broken, ?_⟩
        · exact List.forall_mem_cons.mpr ⟨faulty, sound⟩
        · rw [List.length_cons, Nat.add_right_comm, Nat.add_assoc]
      · rintro ⟨before, line, after, same, sound, broken, rfl⟩
        cases before with
        | nil =>
          obtain ⟨rfl, -⟩ := List.cons.inj same
          exact absurd broken faulty
        | cons other before =>
          obtain ⟨-, rfl⟩ := List.cons.inj same
          refine ⟨before, line, after, rfl, (List.forall_mem_cons.mp sound).2, broken, ?_⟩
          rw [List.length_cons, Nat.add_right_comm, Nat.add_assoc]

theorem exists_first_faulty (faulty : ∃ line ∈ lines, IsFaulty line) :
    ∃ before line after, lines = before ++ line :: after ∧ (∀ l ∈ before, ¬ IsFaulty l) ∧
      IsFaulty line := by
  induction lines with
  | nil => simp at faulty
  | cons first rest ih =>
    by_cases here : IsFaulty first
    · exact ⟨[], first, rest, rfl, by simp, here⟩
    · obtain ⟨line, member, broken⟩ := faulty
      have later : line ∈ rest := by
        rcases List.mem_cons.mp member with rfl | later
        · exact absurd broken here
        · exact later
      obtain ⟨before, line, after, rfl, sound, broken⟩ := ih ⟨line, later, broken⟩
      exact ⟨first :: before, line, after, rfl, List.forall_mem_cons.mpr ⟨here, sound⟩, broken⟩

/-! ### Lines of a text -/

theorem trimChars_dropReturn (line : List Char) :
    trimChars (Text.dropReturn line) = trimChars line := by
  unfold Text.dropReturn
  split
  · next rest turned =>
    have blank : ∀ c ∈ ['\r'], isBlank c := List.forall_mem_singleton.mpr (by decide)
    have same : line = rest.reverse ++ ['\r'] := by
      rw [← List.reverse_reverse line, turned, List.reverse_cons]
    rw [same, trimChars_append_blank _ blank]
  · rfl

theorem entries_congr {other : List Char} {others : List (List Char)}
    (same : trimChars line = trimChars other)
    (later : entries (number + 1) rest = entries (number + 1) others) :
    entries number (line :: rest) = entries number (other :: others) := by
  simp only [entries, same, later]

theorem modifyHead_nil_append (lines : List (List Char)) :
    lines.modifyHead (List.reverse [] ++ ·) = lines := by
  cases lines <;> rfl

/-- A carriage return at the end of a line and an empty line at the end of a text bind nothing, so
it is enough to split the text at its line feeds. -/
theorem entries_linesFrom (current : List Char) :
    entries number (Text.linesFrom current cs) =
      entries number ((cs.splitOn '\n').modifyHead (current.reverse ++ ·)) := by
  induction cs generalizing current number with
  | nil =>
    cases current with
    | nil => rfl
    | cons c current => simp [Text.linesFrom, List.splitOn]
  | cons c cs ih =>
    by_cases feed : c = '\n'
    · subst feed
      have split : ('\n' :: cs).splitOn '\n' = [] :: cs.splitOn '\n' := by
        simp [List.splitOn_cons_eq_if_modifyHead]
      rw [split, List.modifyHead_cons, List.append_nil, Text.linesFrom]
      refine entries_congr (trimChars_dropReturn _) ?_
      rw [ih, modifyHead_nil_append]
    · have split : (c :: cs).splitOn '\n' = (cs.splitOn '\n').modifyHead (c :: ·) := by
        simp [List.splitOn_cons_eq_if_modifyHead, feed]
      rw [split, Text.linesFrom, ih, List.modifyHead_modifyHead]
      · simp [Function.comp_def]
      · exact feed

theorem entries_lines (cs : List Char) :
    entries number (Text.lines cs) = entries number (cs.splitOn '\n') := by
  rw [Text.lines, entries_linesFrom, modifyHead_nil_append]

/-! ### Written entries -/

/-- Blanks that stand within a line. -/
def IsGap (cs : List Char) : Prop :=
  ∀ c ∈ cs, isBlank c ∧ c ≠ '\n'

structure IsKey (key : String) : Prop where
  nonempty : key ≠ ""
  trimmed : trim key = key
  noEquals : '=' ∉ key.toList
  oneLine : '\n' ∉ key.toList
  noComment : key.toList.head? ≠ some '#'

structure IsValue (value : String) : Prop where
  trimmed : trim value = value
  oneLine : '\n' ∉ value.toList

/-- A blank line, or one that begins with `#`. -/
inductive Passes : List Char → Prop
  | blank {gap : List Char} (isGap : IsGap gap) : Passes gap
  | comment {gap text : List Char} (isGap : IsGap gap) (oneLine : '\n' ∉ text) :
      Passes (gap ++ '#' :: text)

/-- A key and a value with `=` between them, and gaps around each of the three. -/
inductive Binds (key value : String) : List Char → Prop
  | intro {gap₁ gap₂ gap₃ gap₄ : List Char} (first : IsGap gap₁) (second : IsGap gap₂)
      (third : IsGap gap₃) (fourth : IsGap gap₄) :
      Binds key value (gap₁ ++ key.toList ++ gap₂ ++ '=' :: (gap₃ ++ value.toList ++ gap₄))

/-- The lines bind the entries in their order, with lines that are passed over anywhere. -/
inductive Lists : List (String × String) → List (List Char) → Prop
  | nil : Lists [] []
  | pass {entries : List (String × String)} {line : List Char} {lines : List (List Char)}
      (passes : Passes line) (rest : Lists entries lines) : Lists entries (line :: lines)
  | bind {key value : String} {entries : List (String × String)} {line : List Char}
      {lines : List (List Char)} (binds : Binds key value line) (rest : Lists entries lines) :
      Lists ((key, value) :: entries) (line :: lines)

theorem IsGap.blank (gap : IsGap cs) : ∀ c ∈ cs, isBlank c :=
  fun c member => (gap c member).1

theorem IsGap.oneLine (gap : IsGap cs) : '\n' ∉ cs :=
  fun member => (gap _ member).2 rfl

theorem toList_trim (text : String) : (trim text).toList = trimChars text.toList := by
  simp [trim]

theorem IsKey.trimChars_eq {key : String} (isKey : IsKey key) :
    trimChars key.toList = key.toList := by
  rw [← toList_trim, isKey.trimmed]

theorem IsValue.trimChars_eq {value : String} (isValue : IsValue value) :
    trimChars value.toList = value.toList := by
  rw [← toList_trim, isValue.trimmed]

theorem trimChars_between {gap gap' : List Char} (isGap : IsGap gap) (isGap' : IsGap gap')
    (cs : List Char) : trimChars (gap ++ cs ++ gap') = trimChars cs := by
  rw [trimChars_append_blank _ isGap'.blank, trimChars_blank_append isGap.blank]

/-- What stands before and behind a character that is no blank is trimmed at one end only. -/
theorem trimChars_equals (before after : List Char) :
    trimChars (before ++ '=' :: after) =
      before.dropWhile isBlank ++ '=' :: after.rdropWhile isBlank := by
  have solid : isBlank '=' = false := by decide
  rw [trimChars_eq, List.append_cons, dropWhile_concat_append solid, ← List.append_cons,
    rdropWhile_append_cons solid]

theorem Passes.isSkipped (passes : Passes line) : isSkipped (trimChars line) = true := by
  refine isSkipped_iff.mpr ?_
  cases passes with
  | blank gap => exact .inl (trimChars_eq_nil_iff.mpr gap.blank)
  | @comment _ text gap _ =>
    right
    have solid : isBlank '#' = false := by decide
    rw [trimChars_blank_append gap.blank, trimChars_eq, List.dropWhile_cons_of_neg (by simp [solid])]
    have kept := rdropWhile_append_cons solid [] text
    rw [List.nil_append] at kept
    rw [kept]
    rfl

theorem Passes.oneLine (passes : Passes line) : '\n' ∉ line := by
  cases passes with
  | blank gap => exact gap.oneLine
  | comment gap oneLine => simp [gap.oneLine, oneLine]

section

variable {key value : String}

theorem IsKey.exists_cons (isKey : IsKey key) :
    ∃ c cs, key.toList = c :: cs ∧ isBlank c = false ∧ c ≠ '#' := by
  have nonempty : key.toList ≠ [] := by simpa using isKey.nonempty
  obtain ⟨c, cs, same⟩ := List.exists_cons_of_ne_nil nonempty
  have trimmed := isKey.trimChars_eq
  have noComment := isKey.noComment
  rw [same] at trimmed noComment
  refine ⟨c, cs, same, ?_, by simpa using noComment⟩
  cases blank : isBlank c with
  | false => rfl
  | true =>
    -- A blank at the head would be lost, and the key with it.
    rw [Unicode.trimChars_eq, List.dropWhile_cons_of_pos blank] at trimmed
    have shorter := congrArg List.length trimmed
    have less : ((cs.dropWhile isBlank).rdropWhile isBlank).length ≤ cs.length :=
      Nat.le_trans (List.rdropWhile_prefix _ _).length_le (List.dropWhile_suffix _).length_le
    rw [List.length_cons] at shorter
    omega

theorem Binds.oneLine (binds : Binds key value line) (isKey : IsKey key) (isValue : IsValue value) :
    '\n' ∉ line := by
  cases binds with
  | intro first second third fourth =>
    simp [first.oneLine, second.oneLine, third.oneLine, fourth.oneLine, isKey.oneLine,
      isValue.oneLine]

theorem Binds.entry_eq (binds : Binds key value line) (isKey : IsKey key) (isValue : IsValue value) :
    isSkipped (trimChars line) = false ∧
      entry? (trimChars line) = some (key, .string value) := by
  cases binds with
  | @intro gap₁ gap₂ gap₃ gap₄ first second third fourth =>
    obtain ⟨c, cs, same, solid, noComment⟩ := isKey.exists_cons
    have head : (gap₁ ++ key.toList ++ gap₂).dropWhile isBlank = key.toList ++ gap₂ := by
      rw [List.append_assoc, List.dropWhile_append_of_pos first.blank, same, List.cons_append,
        List.dropWhile_cons_of_neg (by simp [solid])]
    have free : '=' ∉ key.toList ++ gap₂ := by
      rw [List.mem_append, not_or]
      refine ⟨isKey.noEquals, fun member => ?_⟩
      exact absurd (second.blank _ member) (by decide)
    have keyText : trimChars (key.toList ++ gap₂) = key.toList := by
      rw [trimChars_append_blank _ second.blank, isKey.trimChars_eq]
    have valueText : trimChars ((gap₃ ++ value.toList ++ gap₄).rdropWhile isBlank) =
        value.toList := by
      rw [trimChars_rdropWhile, trimChars_between third fourth, isValue.trimChars_eq]
    rw [trimChars_equals, head]
    constructor
    · rw [same]
      simpa [isSkipped] using noComment
    · rw [entry?_split free, keyText, valueText, if_neg (by simp [same])]
      simp

end

theorem Lists.oneLine {entries : List (String × String)} (lists : Lists entries lines)
    (valid : ∀ entry ∈ entries, IsKey entry.1 ∧ IsValue entry.2) : ∀ line ∈ lines, '\n' ∉ line := by
  induction lists with
  | nil => simp
  | pass passes _ ih => exact List.forall_mem_cons.mpr ⟨passes.oneLine, ih valid⟩
  | bind binds _ ih =>
    obtain ⟨⟨isKey, isValue⟩, valid⟩ := List.forall_mem_cons.mp valid
    exact List.forall_mem_cons.mpr ⟨binds.oneLine isKey isValue, ih valid⟩

theorem Lists.entries_eq {entries : List (String × String)} (lists : Lists entries lines)
    (valid : ∀ entry ∈ entries, IsKey entry.1 ∧ IsValue entry.2) :
    KeyValue.entries number lines =
      .ok (entries.map fun entry => (entry.1, .string entry.2)) := by
  induction lists generalizing number with
  | nil => rfl
  | pass passes _ ih =>
    rw [entries_skipped passes.isSkipped]
    exact ih valid
  | bind binds _ ih =>
    obtain ⟨⟨isKey, isValue⟩, valid⟩ := List.forall_mem_cons.mp valid
    obtain ⟨stands, binds⟩ := binds.entry_eq isKey isValue
    rw [entries_entry stands binds, ih valid]
    rfl

end KeyValue

open KeyValue

/-- Entries are read back from their lines, and a text is refused exactly if a line of it is faulty,
with the number and the text of the first such line. -/
theorem Node.readEntries_lines :
    (∀ entries lines, (∀ entry ∈ entries, IsKey entry.1 ∧ IsValue entry.2) →
      Lists entries lines →
      readEntries (String.ofList (['\n'].intercalate lines)) =
        .ok (entries.map fun entry => (entry.1, .string entry.2))) ∧
    ∀ text : String,
      ((∃ e, readEntries text = .error e) ↔ ∃ line ∈ text.toList.splitOn '\n', IsFaulty line) ∧
      ∀ e, readEntries text = .error e →
        ∃ before line after, text.toList.splitOn '\n' = before ++ line :: after ∧
          (∀ l ∈ before, ¬ IsFaulty l) ∧ IsFaulty line ∧
          e = ⟨before.length + 1, String.ofList (trimChars line)⟩ := by
  refine ⟨fun entries lines valid lists => ?_, fun text => ⟨?_, fun e failed => ?_⟩⟩
  · rw [readEntries, String.toList_ofList, entries_lines]
    cases lines with
    | nil =>
      cases lists
      rfl
    | cons line lines =>
      rw [List.splitOn_intercalate _ (lists.oneLine valid) (by simp), lists.entries_eq valid]
  · rw [readEntries, entries_lines]
    constructor
    · rintro ⟨e, failed⟩
      obtain ⟨before, line, after, same, _, faulty, _⟩ := entries_eq_error_iff.mp failed
      exact ⟨line, by simp [same], faulty⟩
    · intro faulty
      obtain ⟨before, line, after, same, sound, broken⟩ := exists_first_faulty faulty
      exact ⟨_, entries_eq_error_iff.mpr ⟨before, line, after, same, sound, broken, rfl⟩⟩
  · rw [readEntries, entries_lines] at failed
    obtain ⟨before, line, after, same, sound, broken, rfl⟩ := entries_eq_error_iff.mp failed
    exact ⟨before, line, after, same, sound, broken, by rw [Nat.add_comm]⟩

/-- A comment, a blank line and the end of the last line bind nothing, a key may repeat, and a line
without `=` is reported by its number. -/
theorem Node.readEntries_lines_tags :
    readEntries "# header\ntag = a\n\ntag=b\n" =
        .ok [("tag", .string "a"), ("tag", .string "b")] ∧
      readEntries "ok=1\nbroken" = .error ⟨2, "broken"⟩ ∧
      ∃ line ∈ "ok=1\nbroken".toList.splitOn '\n', IsFaulty line := by
  have tag : IsKey "tag" := ⟨by decide, by decide +kernel, by decide, by decide, by decide⟩
  have valueA : IsValue "a" := ⟨by decide +kernel, by decide⟩
  have valueB : IsValue "b" := ⟨by decide +kernel, by decide⟩
  have gap : IsGap [] := by simp [IsGap]
  have blank : IsGap [' '] := by
    intro c member
    rw [List.mem_singleton.mp member]
    decide
  have written : Lists [("tag", "a"), ("tag", "b")] [[] ++ '#' :: " header".toList,
      [] ++ "tag".toList ++ [' '] ++ '=' :: ([' '] ++ "a".toList ++ []), [],
      [] ++ "tag".toList ++ [] ++ '=' :: ([] ++ "b".toList ++ []), []] :=
    .pass (.comment gap (by decide)) <| .bind (.intro gap blank blank gap) <|
      .pass (.blank gap) <| .bind (.intro gap gap gap gap) <| .pass (.blank gap) .nil
  have valid : ∀ entry ∈ [("tag", "a"), ("tag", "b")], IsKey entry.1 ∧ IsValue entry.2 := by
    intro entry member
    rcases List.mem_cons.mp member with rfl | member
    · exact ⟨tag, valueA⟩
    · rw [List.mem_singleton.mp member]
      exact ⟨tag, valueB⟩
  have failed : readEntries "ok=1\nbroken" = .error ⟨2, "broken"⟩ := rfl
  have read := readEntries_lines.1 _ _ valid written
  have text : String.ofList (['\n'].intercalate [[] ++ '#' :: " header".toList,
      [] ++ "tag".toList ++ [' '] ++ '=' :: ([' '] ++ "a".toList ++ []), [],
      [] ++ "tag".toList ++ [] ++ '=' :: ([] ++ "b".toList ++ []), []]) =
      "# header\ntag = a\n\ntag=b\n" := by decide +kernel
  rw [text] at read
  exact ⟨read, failed,
    (readEntries_lines.2 "ok=1\nbroken").1.mp ⟨_, failed⟩⟩

end Attest
