import Attest.Evaluation.Store
/-!
# Variables, seen through their names

What each operation on a store does to the binding of a name. The bindings of the names determine
the store.
-/

namespace Attest

namespace Store

/-! ### Lookup in entries -/

theorem lookup_cons_eq_ite (name : String) (entry : String × Binding)
    (rest : List (String × Binding)) :
    (entry :: rest).lookup name = if name = entry.1 then some entry.2 else rest.lookup name := by
  obtain ⟨key, value⟩ := entry
  by_cases same : name = key
  · simp [same]
  · simp [List.lookup_cons, same, beq_eq_false_iff_ne.mpr same]

theorem lookup_insertEntry (name other : String) (binding : Binding)
    (entries : List (String × Binding)) :
    (insertEntry name binding entries).lookup other =
      if other = name then some binding else entries.lookup other := by
  induction entries with
  | nil => exact lookup_cons_eq_ite other (name, binding) []
  | cons entry rest ih =>
    unfold insertEntry
    split
    · exact lookup_cons_eq_ite other (name, binding) (entry :: rest)
    · split
      next same =>
        simp only [lookup_cons_eq_ite, ← same]
        split <;> rfl
      next different =>
        simp only [lookup_cons_eq_ite, ih]
        by_cases here : other = entry.1
        · simp [here, Ne.symm different]
        · simp [here]

theorem lookup_filter_ne (name other : String) (entries : List (String × Binding)) :
    (entries.filter fun entry => entry.1 != name).lookup other =
      if other = name then none else entries.lookup other := by
  induction entries with
  | nil => simp
  | cons entry rest ih =>
    by_cases gone : entry.1 = name
    · simp only [List.filter_cons, gone, bne_self_eq_false, Bool.false_eq_true, if_false, ih,
        lookup_cons_eq_ite]
      split <;> rfl
    · simp only [List.filter_cons, bne_iff_ne.mpr gone, if_true, lookup_cons_eq_ite, ih]
      by_cases here : other = entry.1
      · simp [here, gone]
      · simp [here]

theorem lookup_eq_none_of_lt {name : String} {entries : List (String × Binding)}
    (below : ∀ entry ∈ entries, name < entry.1) : entries.lookup name = none := by
  induction entries with
  | nil => rfl
  | cons entry rest ih =>
    have different : name ≠ entry.1 := by
      intro same
      have less := below entry List.mem_cons_self
      rw [← same] at less
      exact String.lt_irrefl name less
    rw [lookup_cons_eq_ite, if_neg different]
    exact ih fun later member => below later (List.mem_cons_of_mem _ member)

/-- A name below that of the first entry is below the names of all. -/
theorem below_of_lt {name : String} {entry : String × Binding} {rest : List (String × Binding)}
    (less : name < entry.1) (h : Sorted (entry :: rest)) : ∀ e ∈ entry :: rest, name < e.1 := by
  intro e member
  rcases List.mem_cons.mp member with rfl | member
  · exact less
  · exact String.lt_trans less ((List.pairwise_cons.mp h).1 e member)

theorem eq_of_lookup_eq {as bs : List (String × Binding)} (ha : Sorted as) (hb : Sorted bs)
    (same : ∀ name, as.lookup name = bs.lookup name) : as = bs := by
  unfold Sorted at ha hb
  induction as generalizing bs with
  | nil =>
    cases bs with
    | nil => rfl
    | cons b bs =>
      have absurdity := same b.1
      rw [lookup_cons_eq_ite, if_pos rfl] at absurdity
      exact nomatch absurdity
  | cons a as ih =>
    cases bs with
    | nil =>
      have absurdity := same a.1
      rw [lookup_cons_eq_ite, if_pos rfl] at absurdity
      exact nomatch absurdity
    | cons b bs =>
      have first : a.1 = b.1 := by
        apply Classical.byContradiction
        intro different
        have ordered : a.1 < b.1 ∨ b.1 < a.1 := by grind
        rcases ordered with less | less
        · have missing := lookup_eq_none_of_lt (below_of_lt less hb)
          rw [← same a.1, lookup_cons_eq_ite, if_pos rfl] at missing
          exact nomatch missing
        · have missing := lookup_eq_none_of_lt (below_of_lt less ha)
          rw [same b.1, lookup_cons_eq_ite, if_pos rfl] at missing
          exact nomatch missing
      obtain ⟨aLeast, ha⟩ := List.pairwise_cons.mp ha
      obtain ⟨bLeast, hb⟩ := List.pairwise_cons.mp hb
      have values := same a.1
      simp only [lookup_cons_eq_ite, if_true, first, Option.some.injEq] at values
      rw [Prod.ext first values, ih ha hb]
      intro name
      by_cases here : name = a.1
      · rw [lookup_eq_none_of_lt (here ▸ aLeast),
          lookup_eq_none_of_lt (here ▸ first ▸ bLeast)]
      · simpa [lookup_cons_eq_ite, here, ← first] using same name

/-! ### Bindings of names -/

variable {s t : Store} {name other : String} {binding : Binding}

@[simp] theorem get?_empty : empty.get? name = none := rfl

@[simp] theorem get?_put :
    (s.put name binding).get? other = if other = name then some binding else s.get? other :=
  lookup_insertEntry name other binding s.entries

@[simp] theorem get?_remove :
    (s.remove name).get? other = if other = name then none else s.get? other :=
  lookup_filter_ne name other s.entries

/-- Stores with the same bindings are equal. -/
@[ext] theorem ext (same : ∀ name, s.get? name = t.get? name) : s = t := by
  obtain ⟨entries, sorted⟩ := s
  obtain ⟨others, otherSorted⟩ := t
  have equal : entries = others := eq_of_lookup_eq sorted otherSorted same
  subst equal
  rfl

end Store

end Attest
