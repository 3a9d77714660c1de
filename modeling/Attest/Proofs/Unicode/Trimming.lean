import Attest.Unicode.Blank
import Mathlib.Data.List.DropRight
/-!
# Text without the blanks around it

Blanks at either end of a text have no part in it, and a character that is no blank keeps what is
behind it from one end and what is before it from the other.
-/

namespace Attest.Unicode

variable {cs ds : List Char} {c d : Char}

theorem trimChars_eq (cs : List Char) :
    trimChars cs = (cs.dropWhile isBlank).rdropWhile isBlank := rfl

theorem trimChars_blank_append (blank : ∀ c ∈ cs, isBlank c) (ds : List Char) :
    trimChars (cs ++ ds) = trimChars ds := by
  rw [trimChars, trimChars, List.dropWhile_append_of_pos blank]

theorem trimChars_append_blank (cs : List Char) (blank : ∀ c ∈ ds, isBlank c) :
    trimChars (cs ++ ds) = trimChars cs := by
  have dropped : ds.dropWhile isBlank = [] := List.dropWhile_eq_nil_iff.mpr blank
  rw [trimChars, trimChars, List.dropWhile_append]
  split
  · next before =>
    rw [dropped, List.isEmpty_iff.mp before]
  · rw [List.reverse_append, List.dropWhile_append_of_pos]
    intro c member
    exact blank c (List.mem_reverse.mp member)

theorem trimChars_eq_nil_iff : trimChars cs = [] ↔ ∀ c ∈ cs, isBlank c := by
  constructor
  · intro trimmed
    rw [trimChars_eq, List.rdropWhile_eq_nil_iff, ← List.dropWhile_eq_nil_iff,
      List.dropWhile_idempotent] at trimmed
    exact List.dropWhile_eq_nil_iff.mp trimmed
  · intro blank
    have trimmed := trimChars_blank_append blank []
    rwa [List.append_nil] at trimmed

theorem dropWhile_concat_append (closed : isBlank c = false) (front more : List Char) :
    (front ++ [c] ++ more).dropWhile isBlank = front.dropWhile isBlank ++ [c] ++ more := by
  have kept : ¬ isBlank c := by simp [closed]
  rw [List.append_assoc, List.dropWhile_append]
  split
  · next blank =>
    rw [List.isEmpty_iff.mp blank]
    exact List.dropWhile_cons_of_neg kept
  · rw [List.append_assoc]

theorem rdropWhile_append_cons (opens : isBlank d = false) (more back : List Char) :
    (more ++ d :: back).rdropWhile isBlank = more ++ d :: back.rdropWhile isBlank := by
  have turned := dropWhile_concat_append opens back.reverse more.reverse
  rw [List.rdropWhile, List.rdropWhile, List.reverse_append, List.reverse_cons, turned]
  simp

theorem trimChars_ne_nil (member : c ∈ cs) (closed : isBlank c = false) : trimChars cs ≠ [] := by
  intro trimmed
  have blank := trimChars_eq_nil_iff.mp trimmed c member
  rw [closed] at blank
  cases blank

theorem trimChars_rdropWhile (cs : List Char) :
    trimChars (cs.rdropWhile isBlank) = trimChars cs := by
  have split : cs.rdropWhile isBlank ++ cs.rtakeWhile isBlank = cs :=
    List.rdropWhile_append_rtakeWhile
  have blank : ∀ c ∈ cs.rtakeWhile isBlank, isBlank c := fun c => List.mem_rtakeWhile_imp
  conv_rhs => rw [← split, trimChars_append_blank _ blank]

end Attest.Unicode
