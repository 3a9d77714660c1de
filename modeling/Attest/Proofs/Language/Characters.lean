import Attest.Language.Lexer
/-!
# Characters

Which characters can begin a name, a number, a blank or a comment. No two of these go together.
-/

namespace Attest

namespace Unicode

/-- Sets whose ranges are apart have no code point in common. -/
theorem CodePoints.not_contains_of_apart {a b : CodePoints} {point : Nat}
    (apart : ∀ x ∈ a, ∀ y ∈ b, x.2 < y.1 ∨ y.2 < x.1) (inside : a.contains point) :
    b.contains point = false := by
  simp only [contains, List.any_eq_true, Bool.and_eq_true, decide_eq_true_eq] at inside
  obtain ⟨x, first, low, high⟩ := inside
  simp only [contains, List.any_eq_false, Bool.and_eq_true, decide_eq_true_eq]
  intro y second
  have gap := apart x first y second
  omega

theorem range_of_isDigit {c : Char} (digit : c.isDigit) : 48 ≤ c.toNat ∧ c.toNat ≤ 57 := by
  simpa [Char.isDigit, UInt32.le_iff_toNat_le] using digit

theorem range_of_isAlpha {c : Char} (letter : c.isAlpha) :
    65 ≤ c.toNat ∧ c.toNat ≤ 90 ∨ 97 ≤ c.toNat ∧ c.toNat ≤ 122 := by
  have cases : (decide (65 ≤ c.val ∧ c.val ≤ 90) ||
      (decide (97 ≤ c.val) && decide (c.val ≤ 122))) = true := letter
  simpa [UInt32.le_iff_toNat_le] using cases

theorem not_isAlphabetic_of_isBlank {c : Char} (blank : isBlank c) : isAlphabetic c = false := by
  have apart : ∀ x ∈ blanks, ∀ y ∈ alphabetic, x.2 < y.1 ∨ y.2 < x.1 := by decide +kernel
  have outside := CodePoints.not_contains_of_apart apart blank
  unfold isAlphabetic
  split
  · cases letter : c.isAlpha with
    | false => rfl
    | true =>
      have range := range_of_isAlpha letter
      simp [isBlank, CodePoints.contains, blanks] at blank
      omega
  · exact outside

theorem not_isNumeric_of_isBlank {c : Char} (blank : isBlank c) : isNumeric c = false := by
  have apart : ∀ x ∈ blanks, ∀ y ∈ numeric, x.2 < y.1 ∨ y.2 < x.1 := by decide +kernel
  have outside := CodePoints.not_contains_of_apart apart blank
  unfold isNumeric
  split
  · cases digit : c.isDigit with
    | false => rfl
    | true =>
      have range := range_of_isDigit digit
      simp [isBlank, CodePoints.contains, blanks] at blank
      omega
  · exact outside

theorem not_isAlphabetic_of_isDigit {c : Char} (digit : c.isDigit) : isAlphabetic c = false := by
  have range := range_of_isDigit digit
  have small : c.toNat < 128 := by omega
  cases letter : c.isAlpha with
  | false => simp [isAlphabetic, small, letter]
  | true =>
    have other := range_of_isAlpha letter
    omega

theorem not_isBlank_of_isDigit {c : Char} (digit : c.isDigit) : isBlank c = false := by
  have range := range_of_isDigit digit
  simp [isBlank, CodePoints.contains, blanks]
  omega

end Unicode

namespace Lexer

theorem not_isDigit_of_isNameStart {c : Char} (start : isNameStart c) : c.isDigit = false := by
  cases digit : c.isDigit with
  | false => rfl
  | true =>
    have letter := Unicode.not_isAlphabetic_of_isDigit digit
    simp only [isNameStart, letter, Bool.false_or, beq_iff_eq] at start
    rw [start] at digit
    cases digit

theorem not_isBlank_of_isNameStart {c : Char} (start : isNameStart c) :
    Unicode.isBlank c = false := by
  cases blank : Unicode.isBlank c with
  | false => rfl
  | true =>
    have letter := Unicode.not_isAlphabetic_of_isBlank blank
    simp only [isNameStart, letter, Bool.false_or, beq_iff_eq] at start
    rw [start] at blank
    cases blank

theorem ne_of_isBlank {c d : Char} (blank : Unicode.isBlank c) (solid : Unicode.isBlank d = false) :
    c ≠ d := by
  rintro rfl
  exact Bool.false_ne_true (solid.symm.trans blank)

theorem not_isNameChar_of_isBlank {c : Char} (blank : Unicode.isBlank c) :
    isNameChar c = false := by
  have underscore : c ≠ '_' := ne_of_isBlank blank (by decide)
  simp [isNameChar, Unicode.isAlphanumeric, Unicode.not_isAlphabetic_of_isBlank blank,
    Unicode.not_isNumeric_of_isBlank blank, underscore]

/-- The character is not blank and begins no comment. -/
def isSolid (c : Char) : Bool :=
  !Unicode.isBlank c && c != '#' && c != '/'

theorem isSolid_of_isNameStart {c : Char} (start : isNameStart c) : isSolid c := by
  have blank := not_isBlank_of_isNameStart start
  have hash : c ≠ '#' := by rintro rfl; cases start
  have slash : c ≠ '/' := by rintro rfl; cases start
  simp [isSolid, blank, hash, slash]

theorem isSolid_of_isDigit {c : Char} (digit : c.isDigit) : isSolid c := by
  have blank := Unicode.not_isBlank_of_isDigit digit
  have hash : c ≠ '#' := by rintro rfl; cases digit
  have slash : c ≠ '/' := by rintro rfl; cases digit
  simp [isSolid, blank, hash, slash]

end Lexer

end Attest
