import Attest.Proofs.Document.Grouping
import Mathlib.Data.List.Lex
/-!
# Addresses in documents

The address of a node tells the numbers of the children on the way to it. A path leads to its
addresses in the order of the document, and to none within another.
-/

namespace Attest

/-- The numbers of the children on the way from the root to a node. -/
abbrev Address := List Nat

namespace Address

/-- The ways to two addresses part, and the first takes the earlier child there. -/
inductive Precedes : Address → Address → Prop
  | parts {number other : Nat} (less : number < other) (rest later : Address) :
      Precedes (number :: rest) (other :: later)
  | within (number : Nat) {address other : Address} (inner : Precedes address other) :
      Precedes (number :: address) (number :: other)

namespace Precedes

variable {address other : Address}

theorem lt (precedes : Precedes address other) : address < other := by
  induction precedes with
  | parts less rest later => exact List.cons_lt_cons_iff.mpr (.inl less)
  | within number _ ih => exact List.cons_lt_cons_iff.mpr (.inr ⟨rfl, ih⟩)

theorem not_prefix (precedes : Precedes address other) :
    ¬ address <+: other ∧ ¬ other <+: address := by
  induction precedes with
  | parts less rest later =>
    rw [List.cons_prefix_cons, List.cons_prefix_cons]
    omega
  | within number _ ih =>
    rw [List.cons_prefix_cons, List.cons_prefix_cons]
    exact ⟨fun h => ih.1 h.2, fun h => ih.2 h.2⟩

/-- Places within two others come in the order of these. -/
theorem append (precedes : Precedes address other) (rest later : Address) :
    Precedes (address ++ rest) (other ++ later) := by
  induction precedes with
  | parts less first second => exact .parts less _ _
  | within number _ ih => exact .within number ih

/-- Places within the same one keep their order. -/
theorem behind (precedes : Precedes address other) (start : Address) :
    Precedes (start ++ address) (start ++ other) := by
  induction start with
  | nil => exact precedes
  | cons number rest ih => exact .within number ih

end Precedes

end Address

namespace Node

/-- The node at an address. -/
def at? : Node → Address → Option Node
  | node, [] => some node
  | node, number :: rest => node.children[number]?.bind fun child => child.at? rest

theorem at?_append (node : Node) (address rest : Address) :
    node.at? (address ++ rest) = (node.at? address).bind fun child => child.at? rest := by
  induction address generalizing node with
  | nil => rfl
  | cons number later ih =>
    rw [List.cons_append, at?, at?, Option.bind_assoc]
    simp only [ih]

theorem at?_singleton (node : Node) (number : Nat) :
    node.at? [number] = node.children[number]? := by
  rw [at?]
  cases node.children[number]? <;> rfl

end Node

/-! ### Selections -/

/-- Addresses, each with the node there. -/
abbrev Selection := Address → Node → Prop

namespace Selection

/-- The nodes are those of the selection, each once. Their addresses come in the order of the
document, and none is within another. -/
def Yields (selection : Selection) (nodes : List Node) : Prop :=
  ∃ found : List (Address × Node), found.map (·.2) = nodes ∧
    (found.Pairwise fun x y => x.1.Precedes y.1) ∧
    ∀ address node, (address, node) ∈ found ↔ selection address node

/-- What is selected in the nodes of a selection, with addresses from the same root. -/
def onward (selection : Selection) (next : Node → Selection) : Selection :=
  fun address node => ∃ start middle rest,
    address = start ++ rest ∧ selection start middle ∧ next middle rest node

theorem onward_assoc (selection : Selection) (next later : Node → Selection) :
    (selection.onward next).onward later =
      selection.onward fun node => (next node).onward later := by
  funext address node
  refine propext ⟨?_, ?_⟩
  · rintro ⟨_, middle, rest, rfl, ⟨start, first, more, rfl, here, there⟩, behind⟩
    exact ⟨start, first, more ++ rest, List.append_assoc _ _ _, here, more, middle, rest, rfl,
      there, behind⟩
  · rintro ⟨start, first, _, rfl, here, more, middle, rest, rfl, there, behind⟩
    exact ⟨start ++ more, middle, rest, (List.append_assoc _ _ _).symm,
      ⟨start, first, more, rfl, here, there⟩, behind⟩

theorem yields_nothing {selection : Selection}
    (nothing : ∀ address node, ¬ selection address node) : selection.Yields [] :=
  ⟨[], rfl, List.Pairwise.nil, fun address node => by simp [nothing address node]⟩

theorem yields_one {selection : Selection} (address : Address) {node : Node}
    (one : ∀ other child, selection other child ↔ other = address ∧ child = node) :
    selection.Yields [node] :=
  ⟨[(address, node)], rfl, List.pairwise_singleton _ _, fun other child => by simp [one]⟩

/-- What is yielded in each node of a selection is yielded by them all, and keeps the order. -/
theorem Yields.onward {selection : Selection} {nodes : List Node} {next : Node → Selection}
    {step : Node → List Node} (yields : selection.Yields nodes)
    (each : ∀ node, (next node).Yields (step node)) :
    (selection.onward next).Yields (nodes.flatMap step) := by
  obtain ⟨found, rfl, ordered, listed⟩ := yields
  choose inner values inOrder within using each
  refine ⟨found.flatMap fun x => (inner x.2).map fun y => (x.1 ++ y.1, y.2), ?_, ?_, ?_⟩
  · rw [List.map_flatMap, List.flatMap_map]
    refine List.flatMap_congr fun x _ => ?_
    rw [List.map_map, ← values x.2]
    rfl
  · refine List.pairwise_flatMap.mpr ⟨fun x _ => ?_, ordered.imp fun before => ?_⟩
    · exact List.pairwise_map.mpr ((inOrder x.2).imp fun before => before.behind x.1)
    · intro a mem_a b mem_b
      obtain ⟨y, -, rfl⟩ := List.mem_map.mp mem_a
      obtain ⟨z, -, rfl⟩ := List.mem_map.mp mem_b
      exact before.append _ _
  · intro address node
    rw [List.mem_flatMap]
    constructor
    · rintro ⟨⟨start, middle⟩, here, later⟩
      obtain ⟨⟨rest, child⟩, there, same⟩ := List.mem_map.mp later
      cases same
      exact ⟨start, middle, rest, rfl, (listed start middle).mp here,
        (within middle rest _).mp there⟩
    · rintro ⟨start, middle, rest, rfl, here, there⟩
      exact ⟨(start, middle), (listed start middle).mpr here,
        List.mem_map.mpr ⟨(rest, node), (within middle rest node).mpr there, rfl⟩⟩

/-- Some children of a node in their order, each told by its number. -/
theorem yields_children {selection : Selection} (node : Node) {chosen : List (Node × Nat)}
    (ordered : chosen.Sublist node.children.zipIdx)
    (selects : ∀ address child, selection address child ↔
      ∃ number, address = [number] ∧ (child, number) ∈ chosen) :
    selection.Yields (chosen.map (·.1)) := by
  refine ⟨chosen.map fun x => ([x.2], x.1), by rw [List.map_map]; rfl, ?_, ?_⟩
  · refine List.pairwise_map.mpr (List.Pairwise.sublist ordered ?_)
    have numbers : (node.children.zipIdx.map (·.2)).Pairwise (· < ·) := by
      rw [List.zipIdx_map_snd]
      exact List.pairwise_lt_range'
    exact (List.pairwise_map.mp numbers).imp fun less => .parts less [] []
  · intro address child
    rw [selects]
    simp only [List.mem_map, Prod.mk.injEq, Prod.exists]
    constructor
    · rintro ⟨node, number, member, rfl, rfl⟩
      exact ⟨number, rfl, member⟩
    · rintro ⟨number, rfl, member⟩
      exact ⟨child, number, member, rfl, rfl⟩

end Selection

/-! ### Values of a key -/

/-- The values of a key, with the numbers of their entries from `start` on. -/
def numbered (key : String) : Nat → List (String × Node) → List (Node × Nat)
  | _, [] => []
  | start, (name, value) :: rest =>
    (if name = key then [(value, start)] else []) ++ numbered key (start + 1) rest

section

variable {key : String} {entries : List (String × Node)} {start position number : Nat}
  {child : Node}

theorem numbered_sublist (key : String) (start : Nat) (entries : List (String × Node)) :
    (numbered key start entries).Sublist ((entries.map (·.2)).zipIdx start) := by
  induction entries generalizing start with
  | nil => exact List.Sublist.refl _
  | cons entry rest ih =>
    obtain ⟨name, value⟩ := entry
    rw [numbered, List.map_cons, List.zipIdx_cons]
    split
    · exact (ih _).cons_cons _
    · exact (ih _).cons _

theorem map_numbered (key : String) (start : Nat) (entries : List (String × Node)) :
    (numbered key start entries).map (·.1) = valuesOf key entries := by
  induction entries generalizing start with
  | nil => rfl
  | cons entry rest ih =>
    obtain ⟨name, value⟩ := entry
    rw [numbered, valuesOf_cons, List.map_append, ih]
    split <;> rfl

/-- The value of an entry stands behind the values of the key before it. -/
theorem numbered_of_entry (start : Nat) {offset : Nat}
    (entry : entries[offset]? = some (key, child)) :
    (numbered key start entries)[(valuesOf key (entries.take offset)).length]? =
      some (child, start + offset) := by
  induction entries generalizing start offset with
  | nil => cases entry
  | cons first rest ih =>
    obtain ⟨name, value⟩ := first
    rw [numbered]
    cases offset with
    | zero =>
      cases entry
      rw [if_pos rfl]
      rfl
    | succ offset =>
      have later : rest[offset]? = some (key, child) := entry
      have number : start + (offset + 1) = start + 1 + offset := by omega
      rw [List.take_succ_cons, valuesOf_cons, number]
      split
      · rw [List.singleton_append, List.singleton_append, List.length_cons, List.getElem?_cons_succ]
        exact ih _ later
      · rw [List.nil_append, List.nil_append]
        exact ih _ later

theorem entry_of_numbered (found : (numbered key start entries)[position]? = some (child, number)) :
    ∃ offset, number = start + offset ∧ entries[offset]? = some (key, child) ∧
      (valuesOf key (entries.take offset)).length = position := by
  induction entries generalizing start position with
  | nil => cases found
  | cons first rest ih =>
    obtain ⟨name, value⟩ := first
    rw [numbered] at found
    by_cases here : name = key
    · rw [if_pos here, List.singleton_append] at found
      cases position with
      | zero =>
        cases found
        exact ⟨0, rfl, by rw [here]; rfl, rfl⟩
      | succ position =>
        obtain ⟨offset, rfl, entry, before⟩ := ih found
        refine ⟨offset + 1, by omega, entry, ?_⟩
        rw [List.take_succ_cons, valuesOf_cons, if_pos here, List.singleton_append,
          List.length_cons, before]
    · rw [if_neg here, List.nil_append] at found
      obtain ⟨offset, rfl, entry, before⟩ := ih found
      refine ⟨offset + 1, by omega, entry, ?_⟩
      rw [List.take_succ_cons, valuesOf_cons, if_neg here, List.nil_append, before]

theorem mem_numbered :
    (child, number) ∈ numbered key 0 entries ↔ entries[number]? = some (key, child) := by
  constructor
  · intro member
    obtain ⟨position, found⟩ := List.mem_iff_getElem?.mp member
    obtain ⟨offset, rfl, entry, _⟩ := entry_of_numbered found
    rwa [Nat.zero_add]
  · intro entry
    have found := numbered_of_entry 0 entry
    rw [Nat.zero_add] at found
    exact List.mem_of_getElem? found

end

/-! ### Where paths lead -/

namespace Node

/-- Where one step leads from a node. -/
inductive StepsTo : Node → Step → Address → Node → Prop
  | field {entries : List (String × Node)} {key : String} {number : Nat} {child : Node}
      (entry : entries[number]? = some (key, child)) :
      StepsTo (.mapping entries) (.field key) [number] child
  | index {items : List Node} {position : Nat} {child : Node}
      (item : items[position]? = some child) :
      StepsTo (.sequence items) (.index position) [position] child
  | wildcard {node : Node} {number : Nat} {child : Node}
      (part : node.children[number]? = some child) : StepsTo node .wildcard [number] child

/-- Where a field and the index after it lead from a node: to the value of an entry that has as many
values of the key before it as the index says, or into the list that is the only value. -/
inductive LooksUp : Node → String → Nat → Address → Node → Prop
  | value {entries : List (String × Node)} {key : String} {number position : Nat} {child : Node}
      (entry : entries[number]? = some (key, child))
      (before : (valuesOf key (entries.take number)).length = position)
      (notAlone : ∀ items, valuesOf key entries ≠ [.sequence items]) :
      LooksUp (.mapping entries) key position [number] child
  | item {entries : List (String × Node)} {key : String} {number position : Nat}
      {items : List Node} {child : Node} (entry : entries[number]? = some (key, .sequence items))
      (alone : valuesOf key entries = [.sequence items]) (item : items[position]? = some child) :
      LooksUp (.mapping entries) key position [number, position] child

/-- Where a path leads from a node. -/
inductive LeadsTo : Node → Path → Address → Node → Prop
  | here (node : Node) : LeadsTo node [] [] node
  | step {node middle child : Node} {step : Step} {path : Path} {address rest : Address}
      (apart : ¬ Straddles [step] path) (first : node.StepsTo step address middle)
      (later : middle.LeadsTo path rest child) : LeadsTo node (step :: path) (address ++ rest) child
  | lookup {node middle child : Node} {key : String} {position : Nat} {path : Path}
      {address rest : Address} (first : node.LooksUp key position address middle)
      (later : middle.LeadsTo path rest child) :
      LeadsTo node (.field key :: .index position :: path) (address ++ rest) child

theorem StepsTo.at? {node child : Node} {step : Step} {address : Address}
    (steps : node.StepsTo step address child) : node.at? address = some child := by
  cases steps with
  | field entry => rw [at?_singleton, children, List.getElem?_map, entry, Option.map_some]
  | index item => rw [at?_singleton, children, item]
  | wildcard part => rw [at?_singleton, part]

theorem LooksUp.at? {node child : Node} {key : String} {position : Nat} {address : Address}
    (looks : node.LooksUp key position address child) : node.at? address = some child := by
  cases looks with
  | value entry => exact StepsTo.at? (.field entry)
  | @item _ _ number _ _ _ entry _ item =>
    rw [← List.singleton_append, at?_append, StepsTo.at? (.field entry), Option.bind_some]
    exact StepsTo.at? (.index item)

theorem LeadsTo.at? {node child : Node} {path : Path} {address : Address}
    (leads : node.LeadsTo path address child) : node.at? address = some child := by
  induction leads with
  | here node => rfl
  | step _ first _ ih => rw [at?_append, first.at?, Option.bind_some, ih]
  | lookup first _ ih => rw [at?_append, first.at?, Option.bind_some, ih]

theorem yields_step (node : Node) (step : Step) :
    Selection.Yields (node.StepsTo step) (node.step step) := by
  cases step with
  | field key =>
    rw [step_field]
    cases node with
    | mapping entries =>
      have values : (numbered key 0 entries).map (·.1) = (mapping entries).getAll key :=
        map_numbered key 0 entries
      rw [← values]
      refine Selection.yields_children (mapping entries) (numbered_sublist key 0 entries) ?_
      intro address child
      constructor
      · intro steps
        cases steps with
        | field entry => exact ⟨_, rfl, mem_numbered.mpr entry⟩
      · rintro ⟨number, rfl, member⟩
        exact .field (mem_numbered.mp member)
    | _ => exact Selection.yields_nothing (by rintro _ _ ⟨⟩)
  | index position =>
    rcases node.sequence_or with ⟨items, rfl⟩ | alone
    · rw [Node.step]
      cases found : items[position]? with
      | none =>
        refine Selection.yields_nothing fun address child steps => ?_
        cases steps with
        | index item => cases found.symm.trans item
      | some child =>
        refine Selection.yields_one [position] fun address other => ?_
        constructor
        · intro steps
          cases steps with
          | index item => exact ⟨rfl, Option.some.inj (item.symm.trans found)⟩
        · rintro ⟨rfl, rfl⟩
          exact .index found
    · rw [step_index_of_ne_sequence alone]
      refine Selection.yields_nothing fun address child steps => ?_
      cases steps
      exact alone _ rfl
  | wildcard =>
    have children : node.step .wildcard = node.children.zipIdx.map (·.1) := by
      rw [List.zipIdx_map_fst]
      cases node <;> rfl
    rw [children]
    refine Selection.yields_children node (List.Sublist.refl _) fun address child => ?_
    simp only [List.mem_zipIdx_iff_getElem?]
    constructor
    · intro steps
      cases steps with
      | wildcard part => exact ⟨_, rfl, part⟩
    · rintro ⟨number, rfl, part⟩
      exact .wildcard part

/-- An index after a key with one value, a list, leads into the list. -/
theorem yields_item {entries : List (String × Node)} {key : String} {items : List Node}
    (alone : valuesOf key entries = [sequence items]) (position : Nat) :
    Selection.Yields ((mapping entries).LooksUp key position) items[position]?.toList := by
  obtain ⟨⟨value, number⟩, single, value_eq⟩ :=
    List.map_eq_singleton_iff.mp ((map_numbered key 0 entries).trans alone)
  obtain rfl : value = sequence items := value_eq
  have item_of (address : Address) (child : Node) :
      (mapping entries).LooksUp key position address child ↔
        address = [number, position] ∧ items[position]? = some child := by
    constructor
    · intro looks
      cases looks with
      | value _ _ notAlone => exact absurd alone (notAlone items)
      | item entry same item =>
        have here := mem_numbered.mpr entry
        rw [single, List.mem_singleton] at here
        cases here
        exact ⟨rfl, item⟩
    · rintro ⟨rfl, item⟩
      have entry : (sequence items, number) ∈ numbered key 0 entries := by simp [single]
      exact .item (mem_numbered.mp entry) alone item
  cases found : items[position]? with
  | none => exact Selection.yields_nothing fun address child => by simp [item_of, found]
  | some child =>
    refine Selection.yields_one [number, position] fun address other => ?_
    rw [item_of, found, Option.some.injEq, eq_comm (a := child)]

/-- An index after a key with several values, or with one that is no list, counts the values. -/
theorem yields_value {entries : List (String × Node)} {key : String}
    (notAlone : ∀ items, valuesOf key entries ≠ [sequence items]) (position : Nat) :
    Selection.Yields ((mapping entries).LooksUp key position)
      (valuesOf key entries)[position]?.toList := by
  have value_of (address : Address) (child : Node) :
      (mapping entries).LooksUp key position address child ↔
        ∃ number, address = [number] ∧
          (numbered key 0 entries)[position]? = some (child, number) := by
    constructor
    · intro looks
      cases looks with
      | @value _ _ number _ _ entry before _ =>
        have here := numbered_of_entry 0 entry
        rw [before, Nat.zero_add] at here
        exact ⟨number, rfl, here⟩
      | item _ alone _ => exact absurd alone (notAlone _)
    · rintro ⟨number, rfl, here⟩
      obtain ⟨offset, rfl, entry, before⟩ := entry_of_numbered here
      rw [Nat.zero_add]
      exact .value entry before notAlone
  rw [← map_numbered key 0, List.getElem?_map]
  cases found : (numbered key 0 entries)[position]? with
  | none => exact Selection.yields_nothing fun address child => by simp [value_of, found]
  | some first =>
    obtain ⟨value, number⟩ := first
    refine Selection.yields_one [number] fun address other => ?_
    rw [value_of, found]
    simp only [Option.some.injEq, Prod.mk.injEq]
    constructor
    · rintro ⟨other, rfl, rfl, rfl⟩
      exact ⟨rfl, rfl⟩
    · rintro ⟨rfl, rfl⟩
      exact ⟨number, rfl, rfl, rfl⟩

theorem yields_lookup (node : Node) (key : String) (position : Nat) :
    Selection.Yields (node.LooksUp key position) (node.fieldIndex key position).toList := by
  cases node with
  | mapping entries =>
    have lookup : (mapping entries).fieldIndex key position =
        (members (valuesOf key entries))[position]? := rfl
    rw [lookup]
    by_cases alone : ∃ items, valuesOf key entries = [sequence items]
    · obtain ⟨items, alone⟩ := alone
      rw [alone]
      exact yields_item alone position
    · have notAlone := not_exists.mp alone
      rw [members_eq_self notAlone]
      exact yields_value notAlone position
  | _ => exact Selection.yields_nothing (by rintro _ _ ⟨⟩)

end Node

/-! ### Resolution -/

theorem onward_here (selection : Selection) :
    (selection.onward fun node => node.LeadsTo []) = selection := by
  funext address child
  refine propext ⟨?_, fun here => ⟨address, child, [], (List.append_nil _).symm, here, .here child⟩⟩
  rintro ⟨start, middle, rest, rfl, here, leads⟩
  cases leads
  rwa [List.append_nil]

theorem leadsTo_step {step : Step} {path : Path} (apart : ¬ Straddles [step] path) (node : Node) :
    node.LeadsTo (step :: path) =
      Selection.onward (node.StepsTo step) fun middle => middle.LeadsTo path := by
  funext address child
  refine propext ⟨fun leads => ?_, ?_⟩
  · cases leads with
    | step _ first later => exact ⟨_, _, _, rfl, first, later⟩
    | lookup => exact absurd ⟨[], _, _, _, rfl, rfl⟩ apart
  · rintro ⟨start, middle, rest, rfl, first, later⟩
    exact .step apart first later

theorem leadsTo_lookup (key : String) (position : Nat) (path : Path) (node : Node) :
    node.LeadsTo (.field key :: .index position :: path) =
      Selection.onward (node.LooksUp key position) fun middle => middle.LeadsTo path := by
  funext address child
  refine propext ⟨fun leads => ?_, ?_⟩
  · cases leads with
    | step apart => exact absurd ⟨[], _, _, _, rfl, rfl⟩ apart
    | lookup first later => exact ⟨_, _, _, rfl, first, later⟩
  · rintro ⟨start, middle, rest, rfl, first, later⟩
    exact .lookup first later

/-- What a path leads to from the nodes of a selection is in order, as these are. -/
theorem Selection.Yields.resolveNodes {selection : Selection} {nodes : List Node}
    (yields : selection.Yields nodes) (path : Path) :
    (selection.onward fun node => node.LeadsTo path).Yields (resolveNodes nodes path) := by
  fun_induction Attest.resolveNodes nodes path generalizing selection with
  | case1 nodes =>
    rw [onward_here]
    exact yields
  | case2 nodes key position rest ih =>
    simp only [leadsTo_lookup, ← onward_assoc]
    refine ih ?_
    rw [List.filterMap_eq_flatMap_toList]
    exact yields.onward fun node => node.yields_lookup key position
  | case3 nodes step rest notLookup ih =>
    simp only [leadsTo_step (not_straddles_of_not_lookup notLookup), ← onward_assoc]
    exact ih (yields.onward fun node => node.yields_step step)

/-- A path leads to its addresses in the order of the document and to none within another, and the
nodes are those at the addresses. -/
theorem Node.resolve_addresses (document : Node) (path : Path) :
    ∃ addresses : List Address,
      (document.resolve path).map some = addresses.map document.at? ∧
      (addresses.Pairwise fun address other =>
        address < other ∧ ¬ address <+: other ∧ ¬ other <+: address) ∧
      ∀ address, address ∈ addresses ↔ ∃ node, document.LeadsTo path address node := by
  have root : Selection.Yields (fun address node => address = [] ∧ node = document) [document] :=
    Selection.yields_one [] fun _ _ => Iff.rfl
  obtain ⟨found, values, ordered, listed⟩ := root.resolveNodes path
  have leads (address : Address) (node : Node) :
      (address, node) ∈ found ↔ document.LeadsTo path address node := by
    rw [listed]
    constructor
    · rintro ⟨_, _, rest, rfl, ⟨rfl, rfl⟩, leads⟩
      exact leads
    · intro leads
      exact ⟨[], document, address, rfl, ⟨rfl, rfl⟩, leads⟩
  refine ⟨found.map (·.1), ?_, ?_, ?_⟩
  · rw [Node.resolve, ← values, List.map_map, List.map_map]
    refine List.map_congr_left fun x member => ?_
    exact ((leads x.1 x.2).mp member).at?.symm
  · refine List.pairwise_map.mpr (ordered.imp fun before => ?_)
    exact ⟨before.lt, before.not_prefix⟩
  · intro address
    simp only [List.mem_map, Prod.exists, exists_and_right, exists_eq_right, leads]

end Attest
