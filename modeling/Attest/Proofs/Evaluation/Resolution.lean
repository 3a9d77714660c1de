import Mathlib.Data.List.Induction
import Mathlib.Data.List.Nodup
import Attest.Proofs.Evaluation.Reordering
/-!
# How declarations are bound

Declarations end in one of three ways: a name comes again, a path leads nowhere, or all of them are
bound. What decides is their names first, then their paths, each in the order of the list.
-/

namespace Attest

namespace Store

variable {s t : Store} {document : Node} {seen : List String} {earlier later ds : List Declaration}
  {d : Declaration}

/-- The name of the declaration is bound, or one before it has the same. -/
def Taken (s : Store) (earlier : List Declaration) (d : Declaration) : Prop :=
  (s.get? d.name).isSome ∨ ∃ e ∈ earlier, e.name = d.name

/-- The names of the declarations are bound to what their paths lead to, and all other names are as
they were. -/
def Extends (s : Store) (document : Node) (ds : List Declaration) (t : Store) : Prop :=
  ∀ name, t.get? name =
    match ds.find? fun d => d.name = name with
    | some d => some ⟨document.resolve d.path⟩
    | none => s.get? name

/-- The declarations with the number of the nodes that their paths lead to. -/
def counted (document : Node) (ds : List Declaration) : List (Declaration × Nat) :=
  ds.map fun d => (d, (document.resolve d.path).length)

/-- What becomes of a store when declarations are bound in it. -/
inductive Ending (s : Store) (document : Node) : List Declaration → Declared → Prop
  /-- The first name that is taken ends it before anything is bound. -/
  | duplicate {earlier later : List Declaration} {d : Declaration} (fresh : s.Fresh earlier)
      (taken : s.Taken earlier d) :
      Ending s document (earlier ++ d :: later) ⟨s, [], some (.duplicateName d.name)⟩
  /-- The first path that leads nowhere ends it, with the declarations before it bound. -/
  | unresolved {earlier later : List Declaration} {d : Declaration} {t : Store}
      (fresh : s.Fresh (earlier ++ d :: later)) (leads : Leads document earlier)
      (nowhere : document.resolve d.path = []) (extended : s.Extends document earlier t) :
      Ending s document (earlier ++ d :: later)
        ⟨t, counted document earlier, some (.unresolved d.name (Path.text d.path))⟩
  | bound {ds : List Declaration} {t : Store} (fresh : s.Fresh ds) (leads : Leads document ds)
      (extended : s.Extends document ds t) : Ending s document ds ⟨t, counted document ds, none⟩

/-! ### Names -/

theorem fresh_concat_iff : s.Fresh (ds ++ [d]) ↔ s.Fresh ds ∧ ¬ s.Taken ds d := by
  have names : (∃ e ∈ ds, e.name = d.name) ↔ d.name ∈ ds.map Declaration.name :=
    List.mem_map.symm
  rw [Taken, names, not_or, Option.not_isSome_iff_eq_none]
  constructor
  · rintro ⟨apart, free⟩
    rw [List.map_append, List.map_singleton, List.nodup_append] at apart
    obtain ⟨apart, _, differs⟩ := apart
    refine ⟨⟨apart, fun e member => free e (List.mem_append_left _ member)⟩, ?_, ?_⟩
    · exact free d (List.mem_append_right _ (List.mem_singleton_self d))
    · exact fun again => differs _ again _ (List.mem_singleton_self _) rfl
  · rintro ⟨⟨apart, free⟩, unbound, differs⟩
    refine ⟨?_, fun e member => ?_⟩
    · rw [List.map_append, List.map_singleton, ← List.concat_eq_append]
      exact apart.concat differs
    · rcases List.mem_append.mp member with earlier | last
      · exact free e earlier
      · rwa [List.mem_singleton.mp last]

theorem Fresh.of_append (fresh : s.Fresh (earlier ++ later)) : s.Fresh earlier where
  apart := fresh.apart.sublist ((List.sublist_append_left earlier later).map _)
  free d member := fresh.free d (List.mem_append_left later member)

/-- The first declaration whose name is taken, or none. -/
theorem fresh_or_taken (s : Store) (ds : List Declaration) :
    s.Fresh ds ∨ ∃ earlier d later, ds = earlier ++ d :: later ∧ s.Fresh earlier ∧
      s.Taken earlier d := by
  induction ds using List.reverseRecOn with
  | nil => exact .inl ⟨List.nodup_nil, nofun⟩
  | append_singleton ds d ih =>
    rcases ih with fresh | ⟨earlier, e, later, rfl, fresh, taken⟩
    · by_cases taken : s.Taken ds d
      · exact .inr ⟨ds, d, [], rfl, fresh, taken⟩
      · exact .inl (fresh_concat_iff.mpr ⟨fresh, taken⟩)
    · exact .inr ⟨earlier, e, later ++ [d], by simp, fresh, taken⟩

/-- The search goes past fresh declarations to a name that is taken. -/
theorem firstDuplicate?_append (fresh : s.Fresh earlier) (unseen : ∀ e ∈ earlier, e.name ∉ seen)
    (taken : s.Taken earlier d ∨ d.name ∈ seen) (later : List Declaration) :
    s.firstDuplicate? seen (earlier ++ d :: later) = some d.name := by
  induction earlier generalizing seen with
  | nil =>
    have here : (seen.contains d.name || s.contains d.name) = true := by
      simpa [Taken, contains, or_comm] using taken
    rw [List.nil_append, firstDuplicate?, if_pos here]
  | cons e earlier ih =>
    obtain ⟨differs, apart⟩ := List.nodup_cons.mp fresh.apart
    obtain ⟨new, others⟩ := List.forall_mem_cons.mp unseen
    have free := fresh.free e List.mem_cons_self
    have passed : ¬ (seen.contains e.name || s.contains e.name) = true := by
      simp [contains, free, new]
    rw [List.cons_append, firstDuplicate?, if_neg passed]
    refine ih ⟨apart, fun f member => fresh.free f (List.mem_cons_of_mem _ member)⟩ ?_ ?_
    · intro f member again
      rcases List.mem_cons.mp again with same | before
      · exact differs (same ▸ List.mem_map_of_mem member)
      · exact others f member before
    · rcases taken with (bound | ⟨f, member, same⟩) | before
      · exact .inl (.inl bound)
      · rcases List.mem_cons.mp member with rfl | member
        · exact .inr (same ▸ List.mem_cons_self)
        · exact .inl (.inr ⟨f, member, same⟩)
      · exact .inr (List.mem_cons_of_mem _ before)

/-! ### Bindings -/

/-- Declarations with free names whose paths lead somewhere are bound, and those behind them
later. -/
theorem bind_append (fresh : s.Fresh earlier) (leads : Leads document earlier)
    (later : List Declaration) :
    s.bind document (earlier ++ later) =
      let declared := (s.bind document earlier).store.bind document later
      { declared with bound := counted document earlier ++ declared.bound } := by
  induction earlier generalizing s with
  | nil => rfl
  | cons d earlier ih =>
    obtain ⟨here, onward⟩ := List.forall_mem_cons.mp leads
    obtain ⟨free, rest⟩ := fresh.of_cons ⟨document.resolve d.path⟩
    rw [List.cons_append, bind_cons_of_free here free, bind_cons_of_free here free, ih rest onward]
    rfl

theorem bind_of_leads (fresh : s.Fresh ds) (leads : Leads document ds) :
    s.bind document ds = ⟨(s.bind document ds).store, counted document ds, none⟩ := by
  have split := bind_append fresh leads []
  rw [List.append_nil] at split
  rw [split]
  simp only [bind, List.append_nil]

theorem bind_of_nowhere (fresh : s.Fresh earlier) (leads : Leads document earlier)
    (nowhere : document.resolve d.path = []) (later : List Declaration) :
    s.bind document (earlier ++ d :: later) =
      ⟨(s.bind document earlier).store, counted document earlier,
        some (.unresolved d.name (Path.text d.path))⟩ := by
  rw [bind_append fresh leads, bind, nowhere]
  simp only [List.append_nil]

theorem extends_bind (fresh : s.Fresh ds) (leads : Leads document ds) :
    s.Extends document ds (s.bind document ds).store :=
  get?_bind (by rw [bind_of_leads fresh leads])

theorem Extends.unique {u : Store} (first : s.Extends document ds t)
    (second : s.Extends document ds u) : t = u :=
  Store.ext fun name => (first name).trans (second name).symm

/-! ### Endings -/

theorem resolve_of_ending {declared : Declared} (ending : s.Ending document ds declared) :
    s.resolve document ds = declared := by
  cases ending with
  | @duplicate _ later _ fresh taken =>
    rw [resolve, firstDuplicate?_append fresh (fun _ _ => List.not_mem_nil) (.inl taken) later]
  | unresolved fresh leads nowhere extended =>
    rw [resolve_of_fresh fresh, bind_of_nowhere fresh.of_append leads nowhere,
      (extends_bind fresh.of_append leads).unique extended]
  | bound fresh leads extended =>
    rw [resolve_of_fresh fresh, bind_of_leads fresh leads,
      (extends_bind fresh leads).unique extended]

/-- All paths lead somewhere, or there is a first one that does not. -/
theorem leads_or_nowhere (document : Node) (ds : List Declaration) :
    Leads document ds ∨ ∃ earlier d later, ds = earlier ++ d :: later ∧ Leads document earlier ∧
      document.resolve d.path = [] := by
  cases first : ds.find? fun d => (document.resolve d.path).isEmpty with
  | none =>
    refine .inl fun d member nowhere => ?_
    simpa [nowhere] using List.find?_eq_none.mp first d member
  | some d =>
    obtain ⟨nowhere, earlier, later, split, leads⟩ := List.find?_eq_some_iff_append.mp first
    refine .inr ⟨earlier, d, later, split, fun e member nowhere => ?_, List.isEmpty_iff.mp nowhere⟩
    simpa [nowhere] using leads e member

theorem exists_ending (s : Store) (document : Node) (ds : List Declaration) :
    ∃ declared, s.Ending document ds declared := by
  rcases s.fresh_or_taken ds with fresh | ⟨earlier, d, later, rfl, free, taken⟩
  · rcases leads_or_nowhere document ds with leads | ⟨earlier, d, later, rfl, leads, nowhere⟩
    · exact ⟨_, .bound fresh leads (extends_bind fresh leads)⟩
    · exact ⟨_, .unresolved fresh leads nowhere (extends_bind fresh.of_append leads)⟩
  · exact ⟨_, .duplicate free taken⟩

/-- Declarations are bound in a store as one of the endings says. Where the binding of names that
are free comes to a declaration, that one can be declared. -/
theorem resolve_ends (s : Store) (document : Node) (ds : List Declaration) :
    (∀ declared, s.resolve document ds = declared ↔ s.Ending document ds declared) ∧
      ∀ earlier d later, ds = earlier ++ d :: later → s.firstDuplicate? [] ds = none →
        (s.bind document earlier).error = none → ∀ binding,
          (s.bind document earlier).store.declare d.name binding =
            .ok ((s.bind document earlier).store.put d.name binding) := by
  refine ⟨fun declared => ⟨?_, resolve_of_ending⟩, ?_⟩
  · rintro rfl
    obtain ⟨declared, ending⟩ := s.exists_ending document ds
    rwa [resolve_of_ending ending]
  · rintro earlier d later rfl distinct bound binding
    have fresh := (firstDuplicate?_eq_none_iff.mp distinct).1
    rw [List.append_cons] at fresh
    have free := (fresh_concat_iff.mp fresh.of_append).2
    rw [Taken, not_or, Option.not_isSome_iff_eq_none] at free
    have unnamed : earlier.find? (fun e => e.name = d.name) = Option.none := by
      refine List.find?_eq_none.mpr fun e member same => free.2 ⟨e, member, ?_⟩
      exact of_decide_eq_true same
    refine declare_eq_put ?_ binding
    rw [get?_bind bound, unnamed]
    exact free.1

/-- The second path leads nowhere, so the first name is bound and the third is not. -/
theorem resolve_ends_nowhere :
    let document : Node := .mapping [("a", .integer 1)]
    let ds : List Declaration := [⟨"x", [.field "a"]⟩, ⟨"y", [.field "b"]⟩, ⟨"z", [.field "a"]⟩]
    empty.Ending document ds (empty.resolve document ds) ∧
      (empty.resolve document ds).error = some (.unresolved "y" "b") ∧
      (empty.resolve document ds).store.get? "z" = none ∧
      ∃ after, (empty.bind document (ds.take 1)).store.declare "y" ⟨[.null]⟩ = .ok after := by
  intro document ds
  obtain ⟨ends, declares⟩ := resolve_ends empty document ds
  have fresh : empty.firstDuplicate? [] ds = none := by decide +kernel
  have bound : (empty.bind document (ds.take 1)).error = none := by decide +kernel
  refine ⟨(ends _).mp rfl, by decide +kernel, by decide +kernel, ?_⟩
  exact ⟨_, declares (ds.take 1) ⟨"y", [.field "b"]⟩ _ rfl fresh bound _⟩

end Store

end Attest
