import Attest.Proofs.Document.Grouping
/-!
# Wildcards behind lists

What an assertion counts does not change when a wildcard is written behind a path to a list, unless
the list has one item, which is a list in turn: the wildcard then leads to that list alone, and its
items are counted.
-/

namespace Attest

/-- The operand with a wildcard behind its path. -/
def Operand.elements : Operand → Operand
  | .path steps => .path (steps ++ [.wildcard])
  | .variable name steps => .variable name (steps ++ [.wildcard])
  | .literal value => .literal value

/-- The operand has a number of members. -/
def Assertion.size (operand : Operand) (n : Int) : Assertion :=
  ⟨none, ⟨.size, [.integer n]⟩, operand, none⟩

theorem resolveNodes_wildcard (nodes : List Node) (path : Path) :
    resolveNodes nodes (path ++ [.wildcard]) = (resolveNodes nodes path).flatMap Node.children := by
  have apart (first : Path) : ¬ Straddles first [.wildcard] := not_straddles_of_head (by simp) first
  have alone : ¬ Straddles [.wildcard] [] := not_straddles_of_head (by simp) _
  have step (node : Node) : node.step .wildcard = node.children := by cases node <;> rfl
  rw [resolveNodes_append (apart path), resolveNodes_cons alone, resolveNodes]
  simp only [step]

theorem resolveBound_wildcard (nodes : List Node) (path : Path) :
    resolveBound nodes (path ++ [.wildcard]) = (resolveBound nodes path).flatMap Node.children := by
  cases path with
  | nil => exact resolveNodes_wildcard nodes []
  | cons step rest =>
    cases step with
    | index position => exact resolveNodes_wildcard _ rest
    | field key => exact resolveNodes_wildcard nodes (.field key :: rest)
    | wildcard => exact resolveNodes_wildcard nodes (.wildcard :: rest)

namespace Scope

variable {s : Scope} {operand other : Operand} {nodes others items : List Node}

/-- Behind a list the wildcard leads to its items. -/
theorem resolve_elements (one : s.resolve operand = .ok [.sequence items]) :
    s.resolve operand.elements = .ok items := by
  match operand, one with
  | .path steps, one =>
    have list : s.document.resolve steps = [.sequence items] := Except.ok.inj one
    unfold Node.resolve at list
    rw [Operand.elements, resolve, Node.resolve, resolveNodes_wildcard, list,
      List.flatMap_singleton]
    rfl
  | .variable name steps, one =>
    rw [resolve] at one
    rw [Operand.elements, resolve]
    cases found : s.store.get? name with
    | none =>
      rw [found] at one
      cases one
    | some binding =>
      rw [found] at one
      have list : resolveBound binding.nodes steps = [.sequence items] := Except.ok.inj one
      dsimp only
      rw [resolveBound_wildcard, list, List.flatMap_singleton]
      rfl
  | .literal value, one => cases value <;> cases one

/-! ### Members -/

/-- Two assertions give the same, but for an error that quotes the assertion. -/
def GivesAlike (s : Scope) (a b : Assertion) : Prop :=
  s.leaf b = s.leaf a ∨
    s.leaf a = .error (.malformed a.text) ∧ s.leaf b = .error (.malformed b.text)

/-- Assertions about the members of two operands give the same. -/
structure CountsAlike (s : Scope) (operand other : Operand) : Prop where
  size : ∀ n, s.leaf (.size other n) = s.leaf (.size operand n)
  quantified : ∀ quantifier predicate right, predicate.form.countsNodes = false →
    s.GivesAlike ⟨some quantifier, predicate, operand, right⟩
      ⟨some quantifier, predicate, other, right⟩

theorem leaf_size (resolved : s.resolve operand = .ok nodes) (n : Int) :
    s.leaf (.size operand n) = .ok (((members nodes).length : Int) == n) := by
  rw [leaf_of_counts rfl resolved]
  rfl

theorem givesAlike_of_members {a : Assertion} {quantifier : Quantifier}
    (quantified : a.quantifier = some quantifier) (tests : a.predicate.form.countsNodes = false)
    (resolved : s.resolve a.left = .ok nodes) (resolves : s.resolve other = .ok others)
    (same : members nodes = members others) : s.GivesAlike a { a with left := other } := by
  have first := leaf_quantified quantified tests resolved
  have second : s.leaf { a with left := other } = _ := leaf_quantified quantified tests resolves
  by_cases fits : 1 + a.right.toList.length = a.predicate.form.signature.operands
  · have value := rightValue_of_fits (s := s) fits
    have again : s.rightValue { a with left := other } = _ := rightValue_of_fits fits
    left
    rw [first, second, value, again, same]
  · have quoted := rightValue_of_misfit (s := s) fits
    have again : s.rightValue { a with left := other } = _ := rightValue_of_misfit fits
    right
    rw [first, second, quoted, again]
    exact ⟨rfl, rfl⟩

/-- Assertions about members give the same on operands with the same members. -/
theorem countsAlike_of_members (resolved : s.resolve operand = .ok nodes)
    (resolves : s.resolve other = .ok others) (same : members nodes = members others) :
    s.CountsAlike operand other where
  size := by
    intro n
    rw [leaf_size resolved, leaf_size resolves, same]
  quantified := fun _ _ _ tests => givesAlike_of_members rfl tests resolved resolves same

/-- A wildcard behind a path to a list changes nothing for an assertion about the members, unless
the list has a list as its only item. The members are then those of the inner list. -/
theorem leaf_elements (one : s.resolve operand = .ok [.sequence items]) :
    ((∀ inner, items ≠ [.sequence inner]) → s.CountsAlike operand operand.elements) ∧
      ∀ inner, items = [.sequence inner] →
        (∀ n, s.leaf (.size operand.elements n) = .ok ((inner.length : Int) == n)) ∧
          ∀ other, s.resolve other = .ok [.sequence inner] →
            s.CountsAlike other operand.elements := by
  have resolves := resolve_elements one
  constructor
  · intro flat
    have same : members [.sequence items] = members items := (Node.members_eq_self flat).symm
    exact countsAlike_of_members one resolves same
  · rintro inner rfl
    exact ⟨leaf_size resolves, fun other resolved => countsAlike_of_members resolved resolves rfl⟩

/-- A list with a list in it, and with other items. -/
def nested : Scope where
  document := .mapping [
    ("a", .sequence [.integer 1, .sequence [.integer 2, .integer 3]]),
    ("b", .sequence [.sequence [.integer 1, .integer 2, .integer 3]])]
  store := .empty

theorem leaf_elements_nested :
    let operand : Operand := .path [.field "a"]
    let items := [Node.integer 1, .sequence [.integer 2, .integer 3]]
    nested.resolve operand = .ok [.sequence items] ∧ (∀ inner, items ≠ [.sequence inner]) ∧
      nested.CountsAlike operand operand.elements ∧
        nested.leaf (.size operand.elements 2) = .ok true := by
  intro operand items
  have one : nested.resolve operand = .ok [.sequence items] := rfl
  have flat : ∀ inner, items ≠ [.sequence inner] := by simp [items]
  have alike := (leaf_elements one).1 flat
  exact ⟨one, flat, alike, alike.size 2⟩

/-- The only item of a list is a list of three: the list counts as one, its items as three. -/
theorem size_elements_differs :
    ¬ ∀ (s : Scope) (path : Path) (items : List Node) (n : Int),
        s.document.resolve path = [.sequence items] →
          s.leaf (.size (.path (path ++ [.wildcard])) n) = s.leaf (.size (.path path) n) := by
  intro every
  have same := every nested [.field "b"] _ 1 rfl
  have counted : nested.leaf (.size (.path [.field "b"]) 1) = .ok true := rfl
  have counts : nested.leaf (.size (.path [.field "b", .wildcard]) 1) = .ok false := rfl
  cases (counts.symm.trans same).trans counted

end Scope

end Attest
