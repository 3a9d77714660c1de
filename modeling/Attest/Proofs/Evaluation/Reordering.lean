import Attest.Proofs.Evaluation.Declarations
/-!
# Reordered declarations

Whether declarations are bound, as what, and which kind of error refuses them does not depend on
their order.
-/

namespace Attest

namespace DeclarationError

inductive Kind
  | duplicateName
  | unresolved
  deriving DecidableEq, Repr

def kind : DeclarationError → Kind
  | duplicateName _ => .duplicateName
  | unresolved _ _ => .unresolved

end DeclarationError

namespace Store

variable {s : Store} {document : Node} {declarations others : List Declaration}

/-- The names differ, and none of them is bound. -/
structure Fresh (s : Store) (declarations : List Declaration) : Prop where
  apart : (declarations.map Declaration.name).Nodup
  free : ∀ d ∈ declarations, s.get? d.name = none

/-- No path leads nowhere. -/
def Leads (document : Node) (declarations : List Declaration) : Prop :=
  ∀ d ∈ declarations, document.resolve d.path ≠ []

theorem Fresh.perm (fresh : s.Fresh declarations) (same : declarations.Perm others) :
    s.Fresh others where
  apart := (same.map _).nodup fresh.apart
  free d member := fresh.free d (same.mem_iff.mpr member)

theorem Leads.perm (leads : Leads document declarations) (same : declarations.Perm others) :
    Leads document others :=
  fun d member => leads d (same.mem_iff.mpr member)

/-! ### Names -/

theorem firstDuplicate?_eq_none_iff {seen : List String} :
    s.firstDuplicate? seen declarations = none ↔
      s.Fresh declarations ∧ ∀ d ∈ declarations, d.name ∉ seen := by
  induction declarations generalizing seen with
  | nil =>
    refine ⟨fun _ => ⟨⟨List.nodup_nil, by simp⟩, by simp⟩, fun _ => rfl⟩
  | cons d rest ih =>
    rw [firstDuplicate?]
    by_cases taken : seen.contains d.name || s.contains d.name
    · rw [if_pos taken]
      refine ⟨nofun, fun ⟨fresh, unseen⟩ => ?_⟩
      have free := fresh.free d List.mem_cons_self
      have new := unseen d List.mem_cons_self
      simp [contains, free, new] at taken
    · rw [if_neg taken, ih]
      simp only [contains, List.contains_eq_mem, Bool.or_eq_true, decide_eq_true_eq,
        Option.isSome_iff_ne_none, not_or, Decidable.not_not] at taken
      obtain ⟨new, free⟩ := taken
      constructor
      · rintro ⟨fresh, unseen⟩
        have differs : d.name ∉ rest.map Declaration.name := by
          intro again
          obtain ⟨e, member, same⟩ := List.mem_map.mp again
          exact unseen e member (by rw [same]; exact List.mem_cons_self)
        refine ⟨⟨List.nodup_cons.mpr ⟨differs, fresh.apart⟩, ?_⟩, ?_⟩
        · exact List.forall_mem_cons.mpr ⟨free, fresh.free⟩
        · refine List.forall_mem_cons.mpr ⟨new, fun e member => ?_⟩
          exact fun seen => unseen e member (List.mem_cons_of_mem _ seen)
      · rintro ⟨fresh, unseen⟩
        obtain ⟨differs, apart⟩ := List.nodup_cons.mp fresh.apart
        refine ⟨⟨apart, fun e member => fresh.free e (List.mem_cons_of_mem _ member)⟩, ?_⟩
        intro e member seen
        rcases List.mem_cons.mp seen with same | seen
        · exact differs (same ▸ List.mem_map_of_mem member)
        · exact unseen e (List.mem_cons_of_mem _ member) seen

/-! ### Bindings one after the other -/

theorem declare_eq_put {name : String} (free : s.get? name = none) (binding : Binding) :
    s.declare name binding = .ok (s.put name binding) := by
  rw [declare, contains, free]
  rfl

/-- Once a declaration is bound, the names of the others are as free as before. -/
theorem Fresh.of_cons {d : Declaration} (fresh : s.Fresh (d :: declarations)) (binding : Binding) :
    s.get? d.name = none ∧ (s.put d.name binding).Fresh declarations := by
  obtain ⟨differs, apart⟩ := List.nodup_cons.mp fresh.apart
  refine ⟨fresh.free d List.mem_cons_self, apart, fun e member => ?_⟩
  have other : e.name ≠ d.name := fun same => differs (same ▸ List.mem_map_of_mem member)
  rw [get?_put, if_neg other]
  exact fresh.free e (List.mem_cons_of_mem _ member)

theorem bind_cons_of_free {d : Declaration} (leads : document.resolve d.path ≠ [])
    (free : s.get? d.name = none) (declarations : List Declaration) :
    s.bind document (d :: declarations) =
      let declared := (s.put d.name ⟨document.resolve d.path⟩).bind document declarations
      { declared with bound := (d, (document.resolve d.path).length) :: declared.bound } := by
  rw [bind]
  split
  · next nowhere => exact absurd nowhere leads
  · dsimp only
    rw [declare_eq_put free]

/-! ### Kinds of errors -/

/-- After the check of the names, only paths refuse declarations. -/
theorem bind_of_fresh (document : Node) (fresh : s.Fresh declarations) :
    ((s.bind document declarations).error = none ∧ Leads document declarations) ∨
      ∃ name path, (s.bind document declarations).error = some (.unresolved name path) ∧
        ¬ Leads document declarations := by
  induction declarations generalizing s with
  | nil => exact .inl ⟨rfl, nofun⟩
  | cons d rest ih =>
    by_cases nowhere : document.resolve d.path = []
    · refine .inr ⟨d.name, Path.text d.path, ?_, fun leads => leads d List.mem_cons_self nowhere⟩
      rw [bind, nowhere]
    · obtain ⟨free, later⟩ := fresh.of_cons ⟨document.resolve d.path⟩
      rw [bind_cons_of_free nowhere free]
      rcases ih later with ⟨bound, leads⟩ | ⟨name, path, failed, astray⟩
      · exact .inl ⟨bound, List.forall_mem_cons.mpr ⟨nowhere, leads⟩⟩
      · refine .inr ⟨name, path, failed, fun leads => astray fun e member => ?_⟩
        exact leads e (List.mem_cons_of_mem _ member)

/-- The kind of error that refuses the declarations, if one does. -/
def refusal (s : Store) (document : Node) (declarations : List Declaration) :
    Option DeclarationError.Kind :=
  (s.resolve document declarations).error.map DeclarationError.kind

theorem refusal_of_not_fresh (stale : ¬ s.Fresh declarations) :
    s.refusal document declarations = some .duplicateName := by
  unfold refusal resolve
  cases found : s.firstDuplicate? [] declarations with
  | none => exact absurd (firstDuplicate?_eq_none_iff.mp found).1 stale
  | some name => rfl

theorem resolve_of_fresh (fresh : s.Fresh declarations) :
    s.resolve document declarations = s.bind document declarations := by
  unfold resolve
  rw [firstDuplicate?_eq_none_iff.mpr ⟨fresh, by simp⟩]

theorem refusal_of_astray (fresh : s.Fresh declarations) (astray : ¬ Leads document declarations) :
    s.refusal document declarations = some .unresolved := by
  unfold refusal
  rw [resolve_of_fresh fresh]
  rcases bind_of_fresh document fresh with ⟨_, leads⟩ | ⟨name, path, failed, _⟩
  · exact absurd leads astray
  · rw [failed]
    rfl

theorem refusal_of_leads (fresh : s.Fresh declarations) (leads : Leads document declarations) :
    s.refusal document declarations = none := by
  unfold refusal
  rw [resolve_of_fresh fresh]
  rcases bind_of_fresh document fresh with ⟨bound, _⟩ | ⟨name, path, _, astray⟩
  · rw [bound]
    rfl
  · exact absurd leads astray

/-- Names are looked at before paths, whatever the order of the declarations. -/
theorem refusal_cases (s : Store) (document : Node) (declarations : List Declaration) :
    (¬ s.Fresh declarations ∧ s.refusal document declarations = some .duplicateName) ∨
      (s.Fresh declarations ∧ ¬ Leads document declarations ∧
        s.refusal document declarations = some .unresolved) ∨
      (s.Fresh declarations ∧ Leads document declarations ∧
        s.refusal document declarations = none) := by
  by_cases fresh : s.Fresh declarations
  · by_cases leads : Leads document declarations
    · exact .inr (.inr ⟨fresh, leads, refusal_of_leads fresh leads⟩)
    · exact .inr (.inl ⟨fresh, leads, refusal_of_astray fresh leads⟩)
  · exact .inl ⟨fresh, refusal_of_not_fresh fresh⟩

theorem refusal_perm (same : declarations.Perm others) :
    s.refusal document others = s.refusal document declarations := by
  rcases refusal_cases s document declarations with
    ⟨stale, refused⟩ | ⟨fresh, astray, refused⟩ | ⟨fresh, leads, refused⟩
  · rw [refused]
    exact refusal_of_not_fresh fun fresh => stale (fresh.perm same.symm)
  · rw [refused]
    exact refusal_of_astray (fresh.perm same) fun leads => astray (leads.perm same.symm)
  · rw [refused]
    exact refusal_of_leads (fresh.perm same) (leads.perm same)

theorem refusal_eq_none_iff :
    s.refusal document declarations = none ↔ (s.resolve document declarations).error = none :=
  Option.map_eq_none_iff

/-- Of an error it can be seen which check came to it. -/
theorem kind_of_resolve {error : DeclarationError}
    (refused : (s.resolve document declarations).error = some error) :
    error.kind = .duplicateName ↔ ¬ s.Fresh declarations := by
  have kind : s.refusal document declarations = some error.kind := by
    rw [refusal, refused]
    rfl
  rcases refusal_cases s document declarations with
    ⟨stale, same⟩ | ⟨fresh, _, same⟩ | ⟨_, _, same⟩
  · obtain here : error.kind = .duplicateName := Option.some.inj (kind.symm.trans same)
    exact ⟨fun _ => stale, fun _ => here⟩
  · obtain here : error.kind = .unresolved := Option.some.inj (kind.symm.trans same)
    rw [here]
    exact ⟨nofun, fun stale => absurd fresh stale⟩
  · cases kind.symm.trans same

theorem fresh_empty_iff :
    empty.Fresh declarations ↔ (declarations.map Declaration.name).Nodup :=
  ⟨fun fresh => fresh.apart, fun apart => ⟨apart, fun _ _ => get?_empty⟩⟩

/-! ### Stores -/

theorem fresh_of_resolve (bound : (s.resolve document declarations).error = none) :
    s.Fresh declarations := by
  rcases refusal_cases s document declarations with
    ⟨_, refused⟩ | ⟨fresh, _⟩ | ⟨fresh, _⟩
  · cases refused.symm.trans (refusal_eq_none_iff.mpr bound)
  · exact fresh
  · exact fresh

theorem find?_of_mem {d : Declaration} (apart : (declarations.map Declaration.name).Nodup)
    (member : d ∈ declarations) : declarations.find? (fun e => e.name = d.name) = some d := by
  induction declarations with
  | nil => cases member
  | cons first rest ih =>
    obtain ⟨differs, apart⟩ := List.nodup_cons.mp apart
    rcases List.mem_cons.mp member with rfl | member
    · exact List.find?_cons_of_pos (decide_eq_true rfl)
    · have other : first.name ≠ d.name := fun same => differs (same ▸ List.mem_map_of_mem member)
      rw [List.find?_cons_of_neg (by simpa using other)]
      exact ih apart member

theorem find?_perm (apart : (declarations.map Declaration.name).Nodup)
    (same : declarations.Perm others) (name : String) :
    others.find? (fun d => d.name = name) = declarations.find? (fun d => d.name = name) := by
  cases found : declarations.find? (fun d => d.name = name) with
  | some d =>
    have named : d.name = name := by simpa using List.find?_some found
    have member := same.mem_iff.mp (List.mem_of_find?_eq_some found)
    rw [← named]
    exact find?_of_mem ((same.map _).nodup apart) member
  | none =>
    rw [List.find?_eq_none] at found ⊢
    exact fun d member => found d (same.mem_iff.mpr member)

/-- Declarations that are bound make the same store in every order. -/
theorem resolve_store_perm (same : declarations.Perm others)
    (bound : (s.resolve document declarations).error = none) :
    (s.resolve document others).store = (s.resolve document declarations).store := by
  have bound' : (s.resolve document others).error = none := by
    rw [← refusal_eq_none_iff, refusal_perm same, refusal_eq_none_iff]
    exact bound
  ext name
  rw [get?_resolve bound', get?_resolve bound, find?_perm (fresh_of_resolve bound).apart same]

end Store

end Attest
