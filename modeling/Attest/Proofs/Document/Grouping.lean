import Attest.Document.Json
import Attest.Proofs.Document.Composition
import Attest.Proofs.Evaluation.Leaf
/-!
# Grouped keys

A node read back from its JSON has each key once, and the values of a repeated key are one list
there. Paths that take one value of a key at each step lead to the same nodes in both shapes.
-/

namespace Attest

/-! ### Groups of keys -/

section Groups

variable {α : Type} {key : String}

/-- The values of a key. -/
def valuesOf (key : String) (entries : List (String × α)) : List α :=
  (entries.filter fun entry => entry.1 == key).map (·.2)

/-- A group for the values of a key, if it has any. -/
def groupOf (key : String) : List α → List (String × List α)
  | [] => []
  | values => [(key, values)]

theorem groupOf_snoc (key : String) (values : List α) (value : α) :
    groupOf key (values ++ [value]) = [(key, values ++ [value])] := by
  cases values <;> rfl

theorem eq_nil_of_groupOf {values : List α} (ungrouped : groupOf key values = []) :
    values = [] := by
  cases values with
  | nil => rfl
  | cons => cases ungrouped

/-- Groups keep their keys when a value is added to one. -/
theorem filter_map_extend (key name : String) (value : α) (groups : List (String × List α)) :
    (groups.map fun g => if g.1 == name then (g.1, g.2 ++ [value]) else g).filter
        (fun g => g.1 == key) =
      (groups.filter fun g => g.1 == key).map fun g =>
        if g.1 == name then (g.1, g.2 ++ [value]) else g := by
  have keeps : ((fun g : String × List α => g.1 == key) ∘
      fun g => if g.1 == name then (g.1, g.2 ++ [value]) else g) = fun g => g.1 == key := by
    funext g
    dsimp only [Function.comp]
    split <;> rfl
  rw [List.filter_map, keeps]

theorem filter_add_same {groups : List (String × List α)} {values : List α} (value : α)
    (group : (groups.filter fun g => g.1 == key) = groupOf key values) :
    ((groupKeys.add groups (key, value)).filter fun g => g.1 == key) =
      groupOf key (values ++ [value]) := by
  rw [groupOf_snoc]
  unfold groupKeys.add
  split
  · next known =>
    rw [filter_map_extend, group]
    cases values with
    | nil =>
      obtain ⟨found, member, named⟩ := List.any_eq_true.mp known
      have grouped : found ∈ groups.filter fun g => g.1 == key :=
        List.mem_filter.mpr ⟨member, named⟩
      rw [group] at grouped
      cases grouped
    | cons first values => simp [groupOf]
  · next unknown =>
    have ungrouped : (groups.filter fun g => g.1 == key) = [] := by
      rw [List.filter_eq_nil_iff]
      intro found member named
      exact unknown (List.any_eq_true.mpr ⟨found, member, named⟩)
    obtain rfl := eq_nil_of_groupOf (group.symm.trans ungrouped)
    rw [List.filter_append, ungrouped]
    simp

theorem filter_add_other {name : String} (different : name ≠ key) (value : α)
    (groups : List (String × List α)) :
    ((groupKeys.add groups (name, value)).filter fun g => g.1 == key) =
      groups.filter fun g => g.1 == key := by
  unfold groupKeys.add
  split
  · rw [filter_map_extend]
    refine (List.map_congr_left fun g member => ?_).trans (List.map_id _)
    have named : g.1 = key := by simpa using (List.mem_filter.mp member).2
    refine if_neg fun same => ?_
    exact different ((beq_iff_eq.mp same).symm.trans named)
  · rw [List.filter_append]
    simp [different]

theorem valuesOf_cons (name : String) (value : α) (rest : List (String × α)) :
    valuesOf key ((name, value) :: rest) =
      (if name = key then [value] else []) ++ valuesOf key rest := by
  unfold valuesOf
  by_cases here : name = key <;> simp [here]

theorem filter_foldl_add (entries : List (String × α)) (groups : List (String × List α))
    (values : List α) (group : (groups.filter fun g => g.1 == key) = groupOf key values) :
    ((entries.foldl groupKeys.add groups).filter fun g => g.1 == key) =
      groupOf key (values ++ valuesOf key entries) := by
  induction entries generalizing groups values with
  | nil => simpa [valuesOf] using group
  | cons entry rest ih =>
    obtain ⟨name, value⟩ := entry
    rw [List.foldl_cons, valuesOf_cons]
    by_cases here : name = key
    · subst here
      rw [if_pos rfl, ← List.append_assoc]
      exact ih _ _ (filter_add_same value group)
    · rw [if_neg here, List.nil_append]
      exact ih _ _ ((filter_add_other here value groups).trans group)

/-- Each key has one group, which holds all of its values in order. -/
theorem filter_groupKeys (key : String) (entries : List (String × α)) :
    ((groupKeys entries).filter fun group => group.1 == key) = groupOf key (valuesOf key entries) :=
  filter_foldl_add entries [] [] rfl

end Groups

/-! ### Grouped nodes -/

namespace Node

/-- The node that is read from the JSON of a node. -/
def grouped (node : Node) : Node :=
  .ofJson (Json.ofNode node)

theorem ofArray_eq_map (items : List Json) : ofArray items = items.map ofJson := by
  induction items with
  | nil => rfl
  | cons item rest ih => rw [ofArray, ih, List.map_cons]

theorem ofObject_eq_map (members : List (String × Json)) :
    ofObject members = members.map fun member => (member.1, ofJson member.2) := by
  induction members with
  | nil => rfl
  | cons member rest ih => rw [ofObject, ih, List.map_cons]

theorem ofItems_eq_map (items : List Node) : Json.ofItems items = items.map Json.ofNode := by
  induction items with
  | nil => rfl
  | cons item rest ih => rw [Json.ofItems, ih, List.map_cons]

theorem ofEntries_eq_map (entries : List (String × Node)) :
    Json.ofEntries entries = entries.map fun entry => (entry.1, Json.ofNode entry.2) := by
  induction entries with
  | nil => rfl
  | cons entry rest ih => rw [Json.ofEntries, ih, List.map_cons]

theorem grouped_sequence (items : List Node) :
    (sequence items).grouped = sequence (items.map grouped) := by
  rw [grouped, Json.ofNode, ofJson, ofArray_eq_map, ofItems_eq_map, List.map_map]
  rfl

theorem ofJson_ofGroup (values : List Node) :
    ofJson (Json.ofGroup (values.map Json.ofNode)) = ofNodes (values.map grouped) := by
  have list : ofJson (.array (values.map Json.ofNode)) = sequence (values.map grouped) := by
    rw [ofJson, ofArray_eq_map, List.map_map]
    rfl
  match values, list with
  | [], list => exact list
  | [_], _ => rfl
  | _ :: _ :: _, list => exact list

/-- The values of a key as the one value that a mapping with distinct keys has for it. -/
def merged : List Node → List Node
  | [] => []
  | values => [ofNodes values]

theorem members_eq_self {nodes : List Node} (several : ∀ items, nodes ≠ [sequence items]) :
    members nodes = nodes := by
  unfold members
  split
  · next items => exact absurd rfl (several items)
  · rfl

theorem members_several (first second : Node) (rest : List Node) :
    members (first :: second :: rest) = first :: second :: rest :=
  members_eq_self (by simp)

theorem members_merged (values : List Node) : members (merged values) = members values := by
  match values with
  | [] => rfl
  | [_] => rfl
  | first :: second :: rest => exact (members_several first second rest).symm

theorem sequence_or (node : Node) :
    (∃ items, node = sequence items) ∨ ∀ items, node ≠ sequence items := by
  cases node <;> simp

theorem members_alone {node : Node} (alone : ∀ items, node ≠ sequence items) :
    members [node] = [node] :=
  members_eq_self fun items same => alone items (List.cons.inj same).1

theorem grouped_ne_sequence {node : Node} (alone : ∀ items, node ≠ sequence items)
    (items : List Node) : node.grouped ≠ sequence items := by
  intro same
  rw [grouped] at same
  cases node with
  | sequence others => exact alone others rfl
  | float x =>
    rw [Json.ofNode] at same
    split at same <;> cases same
  | integer n =>
    rw [Json.ofNode, ofJson] at same
    split at same <;> cases same
  | _ => cases same

theorem members_map_grouped (nodes : List Node) :
    members (nodes.map grouped) = (members nodes).map grouped := by
  match nodes with
  | [] => rfl
  | [node] =>
    rcases node.sequence_or with ⟨items, rfl⟩ | alone
    · rw [List.map_singleton, grouped_sequence, members, members]
    · rw [members_alone alone, List.map_singleton, members_alone (grouped_ne_sequence alone)]
  | first :: second :: rest =>
    rw [members_several first second rest]
    exact members_several _ _ _

theorem merged_eq_nil {values : List Node} : merged values = [] ↔ values = [] := by
  cases values <;> simp [merged]

theorem getAll_grouped (node : Node) (key : String) :
    node.grouped.getAll key = merged ((node.getAll key).map grouped) := by
  cases node with
  | mapping entries =>
    have values : valuesOf key (Json.ofEntries entries) =
        ((mapping entries).getAll key).map Json.ofNode := by
      rw [ofEntries_eq_map, valuesOf, List.filter_map, getAll, List.map_map, List.map_map]
      rfl
    rw [grouped, Json.ofNode, ofJson, getAll, ofObject_eq_map, List.map_map, List.filter_map,
      List.map_map]
    have names : ((fun entry : String × Node => entry.1 == key) ∘
        (fun member : String × Json => (member.1, ofJson member.2)) ∘
          fun group : String × List Json => (group.1, Json.ofGroup group.2)) =
        fun group => group.1 == key := rfl
    rw [names, filter_groupKeys, values]
    cases found : (mapping entries).getAll key with
    | nil => rfl
    | cons value rest =>
      have group := ofJson_ofGroup (value :: rest)
      exact congrArg (fun node => [node]) group
  | float x =>
    rw [grouped, Json.ofNode]
    split <;> rfl
  | integer n =>
    rw [grouped, Json.ofNode, ofJson]
    split <;> rfl
  | _ => rfl

theorem fieldIndex_grouped (node : Node) (key : String) (position : Nat) :
    node.grouped.fieldIndex key position = (node.fieldIndex key position).map grouped := by
  rw [fieldIndex, fieldIndex, getAll_grouped, members_merged, members_map_grouped,
    List.getElem?_map]

theorem step_index_of_ne_sequence {node : Node} (alone : ∀ items, node ≠ sequence items)
    (position : Nat) : node.step (.index position) = [] := by
  unfold step
  split
  · next index => cases index
  · next items _ _ => exact absurd rfl (alone items)
  · next index => cases index
  · rfl

theorem step_index_grouped (node : Node) (position : Nat) :
    node.grouped.step (.index position) = (node.step (.index position)).map grouped := by
  rcases node.sequence_or with ⟨items, rfl⟩ | alone
  · rw [grouped_sequence, step, step, List.getElem?_map, Option.toList_map]
  · rw [step_index_of_ne_sequence alone, step_index_of_ne_sequence (grouped_ne_sequence alone)]
    rfl

theorem length_step_index (node : Node) (position : Nat) :
    (node.step (.index position)).length ≤ 1 := by
  rcases node.sequence_or with ⟨items, rfl⟩ | alone
  · rw [step]
    cases items[position]? <;> simp
  · rw [step_index_of_ne_sequence alone]
    exact Nat.zero_le 1

end Node

/-! ### Paths to one value -/

/-- A part of a path that leads to one value at most. -/
inductive Link
  /-- One value of a key. -/
  | value (key : String) (position : Nat)
  /-- One item of a sequence. -/
  | item (position : Nat)

namespace Link

def steps : Link → Path
  | value key position => [.field key, .index position]
  | item position => [.index position]

/-- The path along some links. -/
def path (links : List Link) : Path :=
  links.flatMap steps

end Link

open Node

theorem resolveNodes_value (nodes : List Node) (key : String) (position : Nat) (rest : Path) :
    resolveNodes nodes (Link.steps (.value key position) ++ rest) =
      resolveNodes (nodes.filterMap fun node => node.fieldIndex key position) rest :=
  resolveNodes_lookup key position

theorem resolveNodes_item (nodes : List Node) (position : Nat) (rest : Path) :
    resolveNodes nodes (Link.steps (.item position) ++ rest) =
      resolveNodes (nodes.flatMap fun node => node.step (.index position)) rest := by
  refine resolveNodes_cons ?_
  rintro ⟨init, key, _, _, field, _⟩
  have last := congrArg List.getLast? field
  simp at last

theorem resolveNodes_grouped (links : List Link) (nodes : List Node) :
    resolveNodes (nodes.map grouped) (Link.path links) =
      (resolveNodes nodes (Link.path links)).map grouped := by
  induction links generalizing nodes with
  | nil => rfl
  | cons link rest ih =>
    rw [Link.path, List.flatMap_cons]
    cases link with
    | value key position =>
      rw [resolveNodes_value, resolveNodes_value]
      have values : (nodes.map grouped).filterMap (fun node => node.fieldIndex key position) =
          (nodes.filterMap fun node => node.fieldIndex key position).map grouped := by
        rw [List.filterMap_map, List.map_filterMap]
        refine congrArg (nodes.filterMap ·) (funext fun node => ?_)
        exact fieldIndex_grouped node key position
      rw [values]
      exact ih _
    | item position =>
      rw [resolveNodes_item, resolveNodes_item]
      have items : (nodes.map grouped).flatMap (fun node => node.step (.index position)) =
          (nodes.flatMap fun node => node.step (.index position)).map grouped := by
        rw [List.flatMap_map, List.map_flatMap]
        refine congrArg (nodes.flatMap ·) (funext fun node => ?_)
        exact step_index_grouped node position
      rw [items]
      exact ih _

/-- Links lead from one node to one at most. -/
theorem resolve_links (links : List Link) (nodes : List Node) (one : nodes.length ≤ 1) :
    (resolveNodes nodes (Link.path links)).length ≤ 1 := by
  induction links generalizing nodes with
  | nil => exact one
  | cons link rest ih =>
    rw [Link.path, List.flatMap_cons]
    cases link with
    | value key position =>
      rw [resolveNodes_value]
      exact ih _ (Nat.le_trans (List.length_filterMap_le _ _) one)
    | item position =>
      rw [resolveNodes_item]
      refine ih _ ?_
      match nodes, one with
      | [], _ => exact Nat.zero_le 1
      | [node], _ =>
        rw [List.flatMap_singleton]
        exact length_step_index node position

/-- The values of a key behind some links are merged into one. -/
theorem resolve_field_grouped (document : Node) (links : List Link) (key : String) :
    document.grouped.resolve (Link.path links ++ [.field key]) =
      merged ((document.resolve (Link.path links ++ [.field key])).map grouped) := by
  have apart : ¬ Straddles (Link.path links) [.field key] := not_straddles_of_head (by simp) _
  have alone : ¬ Straddles [.field key] [] := not_straddles_of_head (by simp) _
  have first := resolveNodes_grouped links [document]
  have one := resolve_links links [document] (Nat.le_refl 1)
  unfold Node.resolve
  rw [resolveNodes_append apart, resolveNodes_append apart, ← List.map_singleton, first,
    resolveNodes_cons alone, resolveNodes_cons alone, resolveNodes, resolveNodes]
  generalize resolveNodes [document] (Link.path links) = nodes at one
  cases nodes with
  | nil => rfl
  | cons node rest =>
    obtain rfl := List.length_eq_zero_iff.mp (Nat.le_zero.mp (Nat.le_of_succ_le_succ one))
    rw [List.map_singleton, List.flatMap_singleton, List.flatMap_singleton, step_field, step_field]
    exact getAll_grouped node key

/-- A document and what its JSON reads as have the same values at each path to one value. At a
key behind such a path the values are the same, and so are their presence and their number. -/
theorem Node.resolve_grouped (document : Node) (links : List Link) :
    document.grouped.resolve (Link.path links) =
        (document.resolve (Link.path links)).map grouped ∧
      ∀ key : String,
        members (document.grouped.resolve (Link.path links ++ [.field key])) =
            (members (document.resolve (Link.path links ++ [.field key]))).map grouped ∧
          ∀ (store : Store) (a : Assertion), a.predicate.form.countsNodes →
            a.left = .path (Link.path links ++ [.field key]) →
              Scope.leaf ⟨document.grouped, store⟩ a = Scope.leaf ⟨document, store⟩ a := by
  refine ⟨resolveNodes_grouped links [document], fun key => ?_⟩
  have values := resolve_field_grouped document links key
  have same : members (document.grouped.resolve (Link.path links ++ [.field key])) =
      (members (document.resolve (Link.path links ++ [.field key]))).map grouped := by
    rw [values, members_merged, members_map_grouped]
  refine ⟨same, fun store a counts operand => ?_⟩
  have resolved (document : Node) : Scope.resolve ⟨document, store⟩ a.left =
      .ok (document.resolve (Link.path links ++ [.field key])) := by
    rw [operand, Scope.resolve]
  rw [Scope.leaf_of_counts counts (resolved _), Scope.leaf_of_counts counts (resolved _)]
  refine Scope.count_congr ?_ ?_
  · rw [values, merged_eq_nil, List.map_eq_nil_iff]
  · rw [same, List.length_map]

/-- A key that is repeated, with a list and with a mapping that repeats a key in turn. -/
def Node.repeating : Node :=
  .mapping [
    ("a", .sequence [.integer 1]),
    ("a", .mapping [("k", .string "x"), ("b", .null), ("k", .sequence [.string "y"])])]

/-- Grouped, the values of each repeated key are the elements of one sequence. The second of them
has two members at its own repeated key, in the one shape as in the other. -/
theorem Node.resolve_grouped_repeating :
    let links := [Link.value "a" 1]
    let path := Link.path links ++ [.field "k"]
    let a : Assertion := ⟨none, ⟨.size, [.integer 2]⟩, .path path, none⟩
    repeating.grouped = .mapping [
        ("a", .sequence [
          .sequence [.integer 1],
          .mapping [("k", .sequence [.string "x", .sequence [.string "y"]]), ("b", .null)]])] ∧
      repeating.resolve path = [.string "x", .sequence [.string "y"]] ∧
      repeating.grouped.resolve path = [.sequence [.string "x", .sequence [.string "y"]]] ∧
      members (repeating.grouped.resolve path) =
        (members (repeating.resolve path)).map grouped ∧
      a.predicate.form.countsNodes = true ∧
      Scope.leaf ⟨repeating.grouped, .empty⟩ a = Scope.leaf ⟨repeating, .empty⟩ a ∧
      Scope.leaf ⟨repeating, .empty⟩ a = .ok true := by
  intro links path a
  have counts : a.predicate.form.countsNodes = true := rfl
  have behind := (resolve_grouped repeating links).2 "k"
  have same := behind.2 .empty a counts rfl
  exact ⟨by rfl, by rfl, by rfl, behind.1, counts, same, rfl⟩

end Attest
