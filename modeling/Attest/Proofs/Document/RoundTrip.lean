import Attest.Proofs.Document.Equality
import Attest.Proofs.Document.Grouping
import Mathlib.Data.List.Nodup
/-!
# Nodes written as JSON and read back

A mapping becomes an object with each of its keys once, and no value is lost or repeated there.
A node whose mappings have distinct keys and whose floats are finite is read back as it was. Any
node is written, read and written again as it was written first.
-/

namespace Attest

/-! ### Groups in full -/

section Groups

variable {α : Type} {key name : String} {value : α} {entries seen : List (String × α)}

/-- The keys in the order of their first occurrence, each once. -/
def keysOf (entries : List (String × α)) : List String :=
  (entries.map (·.1)).eraseDups

theorem mem_keysOf : key ∈ keysOf entries ↔ ∃ entry ∈ entries, entry.1 = key := by
  rw [keysOf, List.mem_eraseDups, List.mem_map]

theorem keysOf_known (known : name ∈ keysOf seen) :
    keysOf (seen ++ [(name, value)]) = keysOf seen := by
  have there : name ∈ seen.map (·.1) := List.mem_eraseDups.mp known
  rw [keysOf, List.map_append, List.eraseDups_append]
  simp [List.removeAll, there, keysOf]

theorem keysOf_new (new : name ∉ keysOf seen) :
    keysOf (seen ++ [(name, value)]) = keysOf seen ++ [name] := by
  have away : name ∉ seen.map (·.1) := fun there => new (List.mem_eraseDups.mpr there)
  rw [keysOf, List.map_append, List.eraseDups_append]
  simp [List.removeAll, away, keysOf, List.eraseDups_cons]

theorem valuesOf_snoc : valuesOf key (seen ++ [(name, value)]) =
    valuesOf key seen ++ if name = key then [value] else [] := by
  rw [valuesOf, List.filter_append, List.map_append]
  refine congrArg _ ((valuesOf_cons name value []).trans ?_)
  rw [valuesOf, List.filter_nil, List.map_nil, List.append_nil]

theorem valuesOf_eq_nil (unknown : key ∉ keysOf entries) : valuesOf key entries = [] := by
  rw [valuesOf, List.map_eq_nil_iff, List.filter_eq_nil_iff]
  intro entry member named
  exact unknown (mem_keysOf.mpr ⟨entry, member, beq_iff_eq.mp named⟩)

/-- The keys, each with its values. -/
def groupsOf (entries : List (String × α)) : List (String × List α) :=
  (keysOf entries).map fun key => (key, valuesOf key entries)

theorem any_groupsOf : ((groupsOf seen).any fun group => group.1 == name) = true ↔
    name ∈ keysOf seen := by
  simp [groupsOf]

theorem add_groupsOf (seen : List (String × α)) (name : String) (value : α) :
    groupKeys.add (groupsOf seen) (name, value) = groupsOf (seen ++ [(name, value)]) := by
  by_cases known : name ∈ keysOf seen
  · rw [groupKeys.add, if_pos (any_groupsOf.mpr known), groupsOf, groupsOf, keysOf_known known,
      List.map_map]
    refine List.map_congr_left fun key _ => ?_
    rw [Function.comp_apply, valuesOf_snoc]
    by_cases here : key = name
    · simp [here]
    · simp [here, Ne.symm here]
  · rw [groupKeys.add, if_neg (any_groupsOf.not.mpr known), groupsOf, groupsOf, keysOf_new known,
      List.map_append, List.map_singleton, valuesOf_snoc, valuesOf_eq_nil known, if_pos rfl]
    refine congrArg (· ++ _) (List.map_congr_left fun key member => ?_)
    have other : name ≠ key := fun same => known (same ▸ member)
    rw [valuesOf_snoc, if_neg other, List.append_nil]

theorem foldl_groupsOf (entries seen : List (String × α)) :
    entries.foldl groupKeys.add (groupsOf seen) = groupsOf (seen ++ entries) := by
  induction entries generalizing seen with
  | nil => rw [List.foldl_nil, List.append_nil]
  | cons entry rest ih =>
    rw [List.foldl_cons, add_groupsOf, ih, List.append_assoc, List.singleton_append]

theorem groupKeys_eq (entries : List (String × α)) : groupKeys entries = groupsOf entries :=
  foldl_groupsOf entries []

theorem nodup_keysOf_append (entries seen : List (String × α)) (distinct : (keysOf seen).Nodup) :
    (keysOf (seen ++ entries)).Nodup := by
  induction entries generalizing seen with
  | nil => rwa [List.append_nil]
  | cons entry rest ih =>
    rw [← List.singleton_append, ← List.append_assoc]
    refine ih _ ?_
    by_cases known : entry.1 ∈ keysOf seen
    · rwa [keysOf_known known]
    · rw [keysOf_new known, List.nodup_append]
      refine ⟨distinct, List.nodup_singleton _, fun key member other last same => ?_⟩
      exact known (List.mem_singleton.mp last ▸ same ▸ member)

theorem nodup_keysOf (entries : List (String × α)) : (keysOf entries).Nodup :=
  nodup_keysOf_append entries [] List.nodup_nil

/-- The entries that keys select, key by key, are the entries in another order. -/
theorem perm_select (keys : List String) (distinct : keys.Nodup) (entries : List (String × α))
    (listed : ∀ entry ∈ entries, entry.1 ∈ keys) :
    (keys.flatMap fun key => entries.filter fun entry => entry.1 == key).Perm entries := by
  induction keys generalizing entries with
  | nil =>
    obtain rfl : entries = [] := List.eq_nil_iff_forall_not_mem.mpr fun entry member =>
      List.not_mem_nil (listed entry member)
    exact List.Perm.nil
  | cons key rest ih =>
    obtain ⟨apart, distinct⟩ := List.nodup_cons.mp distinct
    rw [List.flatMap_cons]
    have others := ih distinct (entries.filter fun entry => !(entry.1 == key)) fun entry member =>
      (List.mem_cons.mp (listed entry (List.mem_of_mem_filter member))).resolve_left (by
        simpa using (List.mem_filter.mp member).2)
    refine .trans (.append_left _ ?_) (List.filter_append_perm (fun entry => entry.1 == key) entries)
    refine .trans (.of_eq ?_) others
    refine List.flatMap_congr fun name member => ?_
    rw [List.filter_filter]
    refine List.filter_congr fun entry _ => ?_
    by_cases named : entry.1 = name
    · have other : name ≠ key := fun same => apart (same ▸ member)
      simp [named, other]
    · simp [named]

/-- No value is lost in the groups of the keys, and none is there twice. -/
theorem groupsOf_perm (entries : List (String × α)) :
    ((groupsOf entries).flatMap fun group => group.2.map fun value => (group.1, value)).Perm
      entries := by
  have selected (key : String) : ((valuesOf key entries).map fun value => (key, value)) =
      entries.filter fun entry => entry.1 == key := by
    rw [valuesOf, List.map_map]
    refine (List.map_congr_left fun entry member => ?_).trans (List.map_id _)
    rw [← beq_iff_eq.mp (List.mem_filter.mp member).2]
    rfl
  rw [groupsOf, List.flatMap_map]
  simp only [selected]
  exact perm_select (keysOf entries) (nodup_keysOf entries) entries fun entry member =>
    mem_keysOf.mpr ⟨entry, member, rfl⟩

theorem foldl_add_distinct (entries : List (String × α)) (groups : List (String × List α))
    (distinct : (groups.map (·.1) ++ entries.map (·.1)).Nodup) :
    entries.foldl groupKeys.add groups =
      groups ++ entries.map fun entry => (entry.1, [entry.2]) := by
  induction entries generalizing groups with
  | nil => rw [List.foldl_nil, List.map_nil, List.append_nil]
  | cons entry rest ih =>
    have new : ¬ (groups.any fun group => group.1 == entry.1) = true := by
      intro known
      obtain ⟨group, member, named⟩ := List.any_eq_true.mp known
      exact (List.nodup_append.mp distinct).2.2 group.1 (List.mem_map_of_mem member) entry.1
        (by simp) (beq_iff_eq.mp named)
    rw [List.foldl_cons, groupKeys.add, if_neg new, ih, List.append_assoc, List.map_cons,
      List.singleton_append]
    rw [List.map_append, List.append_assoc]
    exact distinct

theorem groupKeys_of_distinct (distinct : (entries.map (·.1)).Nodup) :
    groupKeys entries = entries.map fun entry => (entry.1, [entry.2]) :=
  foldl_add_distinct entries [] distinct

end Groups

/-! ### Written and read back -/

namespace Node

/-- Floats are finite. -/
def IsFinite : Node → Prop
  | float x => x.isFinite = true
  | _ => True

/-- Mappings have distinct keys, at each depth. -/
inductive KeysDistinct : Node → Prop
  | scalar {node : Node} (scalar : node.isScalar = true) : KeysDistinct node
  | sequence {items : List Node} (each : ∀ item ∈ items, KeysDistinct item) :
    KeysDistinct (.sequence items)
  | mapping {entries : List (String × Node)} (distinct : (entries.map (·.1)).Nodup)
    (each : ∀ entry ∈ entries, KeysDistinct entry.2) : KeysDistinct (.mapping entries)

theorem ofNode_mapping (entries : List (String × Node)) : Json.ofNode (.mapping entries) =
    .object ((keysOf entries).map fun key =>
      (key, Json.ofGroup ((valuesOf key entries).map Json.ofNode))) := by
  have keys : keysOf (Json.ofEntries entries) = keysOf entries := by
    rw [keysOf, keysOf, ofEntries_eq_map, List.map_map]
    rfl
  have values (key : String) : valuesOf key (Json.ofEntries entries) =
      (valuesOf key entries).map Json.ofNode := by
    rw [ofEntries_eq_map, valuesOf, valuesOf, List.filter_map, List.map_map, List.map_map]
    rfl
  rw [Json.ofNode, groupKeys_eq, groupsOf, List.map_map, keys]
  refine congrArg Json.object (List.map_congr_left fun key _ => ?_)
  rw [Function.comp_apply, values]

theorem ofNode_mapping_of_distinct {entries : List (String × Node)}
    (distinct : (entries.map (·.1)).Nodup) : Json.ofNode (.mapping entries) =
      .object (entries.map fun entry => (entry.1, Json.ofNode entry.2)) := by
  have keys : (Json.ofEntries entries).map (·.1) = entries.map (·.1) := by
    rw [ofEntries_eq_map, List.map_map]
    rfl
  rw [Json.ofNode, groupKeys_of_distinct (keys.symm ▸ distinct), ofEntries_eq_map, List.map_map,
    List.map_map]
  rfl

theorem ofJson_integer {n : Int} (fits : (integer n).FitsWord) :
    ofJson (.integer n) = integer n := by
  rw [ofJson, if_pos fits.2]

theorem grouped_of_regular {node : Node} (fits : node.Throughout FitsWord)
    (finite : node.Throughout IsFinite) (distinct : node.KeysDistinct) : node.grouped = node := by
  induction node with
  | null | boolean _ | string _ => rfl
  | integer n => exact ofJson_integer ((throughout_scalar rfl).mp fits)
  | float x =>
    have finite : x.isFinite = true := (throughout_scalar rfl).mp finite
    rw [grouped, Json.ofNode, if_pos finite]
    rfl
  | sequence items ih =>
    rw [throughout_sequence] at fits finite
    cases distinct with
    | scalar scalar => cases scalar
    | sequence each =>
      rw [grouped_sequence]
      refine congrArg sequence ((List.map_congr_left fun item member => ?_).trans (List.map_id _))
      exact ih item member (fits item member) (finite item member) (each item member)
  | mapping entries ih =>
    rw [throughout_mapping] at fits finite
    cases distinct with
    | scalar scalar => cases scalar
    | mapping distinct each =>
      rw [grouped, ofNode_mapping_of_distinct distinct, ofJson, ofObject_eq_map, List.map_map]
      refine congrArg mapping ((List.map_congr_left fun entry member => ?_).trans (List.map_id _))
      exact congrArg (entry.1, ·)
        (ih entry member (fits entry member) (finite entry member) (each entry member))

theorem ofNode_ofNodes (nodes : List Node) :
    Json.ofNode (ofNodes nodes) = Json.ofGroup (nodes.map Json.ofNode) := by
  rcases nodes with _ | ⟨first, _ | ⟨second, rest⟩⟩
  · rfl
  · rfl
  · rw [ofNodes, Json.ofNode, ofItems_eq_map]
    · rfl
    · rintro node same
      cases same

theorem map_ofNode_grouped {nodes : List Node}
    (each : ∀ node ∈ nodes, Json.ofNode node.grouped = Json.ofNode node) :
    (nodes.map grouped).map Json.ofNode = nodes.map Json.ofNode := by
  rw [List.map_map]
  exact List.map_congr_left each

theorem ofNode_grouped {node : Node} (fits : node.Throughout FitsWord) :
    Json.ofNode node.grouped = Json.ofNode node := by
  induction node with
  | null | boolean _ | string _ => rfl
  | integer n =>
    exact congrArg Json.ofNode (ofJson_integer ((throughout_scalar rfl).mp fits))
  | float x =>
    rw [grouped, Json.ofNode]
    split
    · next finite => rw [ofJson, Json.ofNode, if_pos finite]
    · rfl
  | sequence items ih =>
    rw [throughout_sequence] at fits
    rw [grouped_sequence, Json.ofNode, Json.ofNode, ofItems_eq_map, ofItems_eq_map,
      map_ofNode_grouped fun item member => ih item member (fits item member)]
  | mapping entries ih =>
    rw [throughout_mapping] at fits
    rw [grouped, ofNode_mapping, ofJson, ofObject_eq_map, List.map_map]
    -- the node that is read has one entry for each group, so its keys are distinct
    rw [ofNode_mapping_of_distinct, List.map_map]
    · refine congrArg Json.object (List.map_congr_left fun key _ => congrArg (key, ·) ?_)
      refine (congrArg Json.ofNode (ofJson_ofGroup _)).trans ((ofNode_ofNodes _).trans ?_)
      refine congrArg Json.ofGroup (map_ofNode_grouped fun node member => ?_)
      obtain ⟨entry, filtered, rfl⟩ := List.mem_map.mp member
      have there := List.mem_of_mem_filter filtered
      exact ih entry there (fits entry there)
    · rw [List.map_map]
      exact (List.map_id _).symm ▸ nodup_keysOf entries

/-- A node with distinct keys and finite floats is read back from its JSON. Each mapping becomes
an object with its keys in the order of their first occurrence, where a key has its one value or
the list of all of its values in order, and no value is lost or repeated. The JSON of the node
that is read back is the same again. -/
theorem json_roundTrip :
    (∀ node : Node, node.Throughout FitsWord → node.Throughout IsFinite → node.KeysDistinct →
      ofJson (Json.ofNode node) = node) ∧
    (∀ entries : List (String × Node),
      Json.ofNode (.mapping entries) = .object ((keysOf entries).map fun key =>
        (key, Json.ofGroup ((valuesOf key entries).map Json.ofNode))) ∧
      (keysOf entries).Nodup ∧
      ((keysOf entries).flatMap fun key =>
        (valuesOf key entries).map fun value => (key, value)).Perm entries) ∧
    ∀ node : Node, node.Throughout FitsWord →
      Json.ofNode (ofJson (Json.ofNode node)) = Json.ofNode node := by
  refine ⟨fun node fits finite distinct => grouped_of_regular fits finite distinct,
    fun entries => ⟨ofNode_mapping entries, nodup_keysOf entries, ?_⟩,
    fun node fits => ofNode_grouped fits⟩
  have perm := groupsOf_perm entries
  rwa [groupsOf, List.flatMap_map] at perm

/-- Distinct keys at two depths, and each kind of scalar. -/
def composed : Node :=
  .mapping [
    ("b", .sequence [.null, .float (.ofInt (-2)), .integer (-1)]),
    ("a", .mapping [("k", .string "x"), ("b", .boolean true)])]

theorem throughout_composed {property : Node → Prop} (null : property .null)
    (float : property (.float (.ofInt (-2)))) (integer : property (.integer (-1)))
    (string : property (.string "x")) (boolean : property (.boolean true)) :
    composed.Throughout property := by
  have each : ∀ scalar ∈ [Node.null, .float (.ofInt (-2)), .integer (-1), .string "x",
      .boolean true], property scalar := by
    simp [null, float, integer, string, boolean]
  exact each

/-- A key that is repeated, and what cannot be written as a number. -/
def scattered : Node :=
  .mapping [("a", .integer 1), ("b", .float (.infinity true)), ("a", .sequence [.integer 2])]

theorem json_roundTrip_composed :
    composed.Throughout FitsWord ∧ composed.Throughout IsFinite ∧ composed.KeysDistinct ∧
      ofJson (Json.ofNode composed) = composed ∧ scattered.Throughout FitsWord ∧
      ofJson (Json.ofNode scattered) =
        .mapping [("a", .sequence [.integer 1, .sequence [.integer 2]]), ("b", .null)] ∧
      Json.ofNode (ofJson (Json.ofNode scattered)) = Json.ofNode scattered := by
  have fits : composed.Throughout FitsWord :=
    throughout_composed trivial trivial (by unfold FitsWord; decide) trivial trivial
  have finite : composed.Throughout IsFinite :=
    throughout_composed trivial (by unfold IsFinite; decide) trivial trivial trivial
  have distinct : composed.KeysDistinct := by
    refine .mapping (by decide) ?_
    rw [List.forall_mem_cons, List.forall_mem_singleton]
    refine ⟨.sequence ?_, .mapping (by decide) ?_⟩
    · rw [List.forall_mem_cons, List.forall_mem_cons, List.forall_mem_singleton]
      exact ⟨.scalar rfl, .scalar rfl, .scalar rfl⟩
    · rw [List.forall_mem_cons, List.forall_mem_singleton]
      exact ⟨.scalar rfl, .scalar rfl⟩
  have scatteredFits : scattered.Throughout FitsWord := by
    have each : ∀ scalar ∈ [integer 1, .float (.infinity true), .integer 2], scalar.FitsWord := by
      simp [FitsWord, Number.minInteger, Number.maxInteger]
    exact each
  exact ⟨fits, finite, distinct, json_roundTrip.1 composed fits finite distinct, scatteredFits, rfl,
    json_roundTrip.2.2 scattered scatteredFits⟩

end Node

end Attest
