import Attest.Proofs.Syntax.Locality
import Attest.Proofs.Syntax.Traces
/-!
# Recorders beside parsers

A recorder mirrors a parser: it ends where the parser ends and finds the same, and the constructs
that the parser puts around a failure are, in the tree, those around the error. Each way to put
parsers together keeps this, and so does opening and closing a construct by hand.
-/

namespace Attest

namespace SyntaxTree

variable {tree tree' : SyntaxTree} {id top node : Nat} {hang around : List Construct}
  {construct : Construct}

/-- The constructs from a node outwards, before another one. -/
inductive Hangs (tree : SyntaxTree) (top : Nat) : List Construct → Nat → Prop
  | here : Hangs tree top [] top
  | inner {id parent : Nat} {construct : Construct} {hang : List Construct}
      (node : tree.get? id = some ⟨some parent, construct⟩) (earlier : parent < id)
      (outer : Hangs tree top hang parent) : Hangs tree top (construct :: hang) id

namespace Hangs

theorem le (hangs : Hangs tree top hang node) : top ≤ node := by
  induction hangs with
  | here => exact Nat.le_refl top
  | inner _ earlier _ ih => exact Nat.le_of_lt (Nat.lt_of_le_of_lt ih earlier)

/-- A change of the node at the top changes nothing before it. -/
theorem set (hangs : Hangs tree top hang node) : Hangs (tree.set top construct) top hang node := by
  induction hangs with
  | here => exact .here
  | inner node earlier outer ih =>
    have above := outer.le
    exact .inner ((get?_set_ne (by omega)).trans node) earlier ih

theorem extend (hangs : Hangs tree id hang node)
    (last : tree.get? id = some ⟨some top, construct⟩) (earlier : top < id) :
    Hangs tree top (hang ++ [construct]) node := by
  induction hangs with
  | here => exact .inner last earlier .here
  | inner node earlier _ ih => exact .inner node earlier ih

theorem chained (hangs : Hangs tree top hang node) (chained : Chained tree top around) :
    Chained tree node (hang ++ around) := by
  induction hangs with
  | here => exact chained
  | inner node earlier _ ih => exact .inner node earlier ih

end Hangs

end SyntaxTree

open SyntaxTree

namespace Recorder

variable {α β γ δ ε : Type} {t t' t'' : Trace} {names names' : List String}
  {errors errors' : List SyntaxError}

/-- Some construct is open, and those that are open exist. -/
structure Point.Opened (p : Point) : Prop where
  nonempty : p.scope ≠ []
  exist : ∀ id ∈ p.scope, id < p.tree.size

namespace Point.Opened

variable {p : Point}

theorem exists_innermost (opened : p.Opened) : ∃ top, p.scope.head? = some top :=
  Option.ne_none_iff_exists'.mp fun unscoped => opened.nonempty (List.head?_eq_none_iff.mp unscoped)

theorem enter (opened : p.Opened) (construct : Construct) : (p.enter construct).Opened where
  nonempty := List.cons_ne_nil _ _
  exist := by
    have size : (p.enter construct).tree.size = p.tree.size + 1 := Array.size_push _
    refine List.forall_mem_cons.mpr ⟨by omega, fun id member => ?_⟩
    have inside := opened.exist id member
    omega

end Point.Opened

/-! ### What a reading does to a trace -/

/-- From one trace to another the open constructs and the earlier nodes are the same again, the
tokens between were passed and none of them is the end of input, no limit was reached, and the
points are those of a run. -/
structure Moves (t : Trace) (names : List String) (errors : List SyntaxError) (t' : Trace) :
    Prop where
  scope : t'.now.scope = t.now.scope
  kept : ∀ id < t.now.tree.size, t'.now.tree.get? id = t.now.tree.get? id
  spans : ∃ ts, Spans t.now.ahead ts t'.now.ahead
  declared : t'.now.declared = t.now.declared ++ names
  errors : t'.now.errors = t.now.errors ++ errors
  exhausted : t'.now.exhausted = t.now.exhausted
  run : Run t.points → Run t'.points

namespace Moves

theorem refl (t : Trace) : Moves t [] [] t where
  scope := rfl
  kept _ _ := rfl
  spans := ⟨[], .refl _⟩
  declared := (List.append_nil _).symm
  errors := (List.append_nil _).symm
  exhausted := rfl
  run := id

theorem size_le (moves : Moves t names errors t') : t.now.tree.size ≤ t'.now.tree.size := by
  refine Nat.le_of_not_lt fun inside => ?_
  have here := moves.kept _ inside
  have outside : t'.now.tree.get? t'.now.tree.size = none := Array.getElem?_size
  rw [outside] at here
  exact absurd (Array.getElem?_eq_none_iff.mp here.symm) (Nat.not_le_of_lt inside)

theorem trans (first : Moves t names errors t') (second : Moves t' names' errors' t'') :
    Moves t (names ++ names') (errors ++ errors') t'' where
  scope := second.scope.trans first.scope
  kept id inside := (second.kept id (Nat.lt_of_lt_of_le inside first.size_le)).trans
    (first.kept id inside)
  spans := by
    obtain ⟨ts, here⟩ := first.spans
    obtain ⟨us, there⟩ := second.spans
    exact ⟨ts ++ us, here.append there⟩
  declared := by rw [second.declared, first.declared, List.append_assoc]
  errors := by rw [second.errors, first.errors, List.append_assoc]
  exhausted := second.exhausted.trans first.exhausted
  run := fun run => second.run (first.run run)

theorem length_le (moves : Moves t names errors t') :
    t'.now.ahead.length ≤ t.now.ahead.length := by
  obtain ⟨ts, spans⟩ := moves.spans
  have length := spans.length
  omega

theorem opened (moves : Moves t names errors t') (opened : t.now.Opened) : t'.now.Opened where
  nonempty := moves.scope ▸ opened.nonempty
  exist id member :=
    Nat.lt_of_lt_of_le (opened.exist id (moves.scope ▸ member)) moves.size_le

theorem advance (more : nextToken t.now.ahead ≠ .endOfInput) :
    Moves t [] [] (t.step Point.advance) where
  scope := rfl
  kept _ _ := rfl
  spans := ⟨[_], .one rfl more⟩
  declared := (List.append_nil _).symm
  errors := (List.append_nil _).symm
  exhausted := rfl
  run := .advance

theorem declare (name : String) :
    Moves t [name] [] (t.step (.declare name)) where
  scope := rfl
  kept _ _ := rfl
  spans := ⟨[], .refl _⟩
  declared := rfl
  errors := (List.append_nil _).symm
  exhausted := rfl
  run := .declare name

theorem record {e : SyntaxError} (innermost : t.now.scope.head? = some e.node) :
    Moves t [] [e] (t.step (.record e)) where
  scope := rfl
  kept _ _ := rfl
  spans := ⟨[], .refl _⟩
  declared := (List.append_nil _).symm
  errors := rfl
  exhausted := rfl
  run := fun run => .record e run innermost

end Moves

/-! ### Beside a parser -/

/-- What holds of the result of a parser, that of a recorder and the draft where both succeed, and
of the draft and the constructs around a failure that are not yet in the tree. -/
structure Contract (α β δ : Type) where
  kept : α → β → δ → Prop
  lost : List Construct → δ → Prop
  /-- The names that are declared. -/
  names : α → List String := fun _ => []

namespace Contract

/-- The same result, and no change of the draft. -/
@[reducible] def plain (d : δ) : Contract α α δ where
  kept x y d' := y = x ∧ d' = d
  lost rest d' := rest = [] ∧ d' = d

/-- The construct around a failure shows the draft. -/
@[reducible] def showing (construct : δ → Construct) (kept : α → β → δ → Prop) :
    Contract α β δ where
  kept := kept
  lost rest d' := rest = [construct d']

end Contract

inductive Agrees (C : Contract α β δ) (t : Trace) :
    Except Failure (α × List Lexeme) → Ending δ β → Prop
  | ok {x : α} {y : β} {d : δ} {t' : Trace} (moves : Moves t (C.names x) [] t')
      (kept : C.kept x y d) : Agrees C t (.ok (x, t'.now.ahead)) ⟨some y, d, t'⟩
  | error {f : Failure} {e : SyntaxError} {d : δ} {t' : Trace} {top : Nat}
      {hang rest : List Construct} (moves : Moves t [] [e] t')
      (same : e.message = f.fault.message ∧ e.line = f.line ∧ t'.now.ahead = f.rest)
      (innermost : t.now.scope.head? = some top) (hangs : Hangs t'.now.tree top hang e.node)
      (trail : f.trail = hang ++ rest) (lost : C.lost rest d) :
      Agrees C t (.error f) ⟨none, d, t'⟩

/-- Within any construct, the recorder does with the draft and the trace what the parser does with
the tokens ahead. -/
def Mirrors (p : Parser α) (r : Recorder δ β) (C : Contract α β δ) (d : δ) (t : Trace) : Prop :=
  t.now.Opened → Agrees C t (p t.now.ahead) (r d t)

variable {p : Parser α} {f : α → Parser γ} {α' β' : Type} {r : Recorder δ β}
  {g : β → Recorder δ β'} {C : Contract α β δ} {D : Contract γ β' δ} {d : δ}

theorem Agrees.after {result : Except Failure (α × List Lexeme)} {ending : Ending δ β}
    (agrees : Agrees C t' result ending) (moves : Moves t [] [] t') : Agrees C t result ending := by
  cases agrees with
  | ok later kept => exact .ok (moves.trans later) kept
  | error later same innermost hangs trail lost =>
    exact .error (moves.trans later) same (moves.scope ▸ innermost) hangs trail lost

theorem Agrees.moves {result : Except Failure (α × List Lexeme)} {ending : Ending δ β}
    (agrees : Agrees C t result ending) : ∃ names errors, Moves t names errors ending.trace := by
  cases agrees with
  | ok moves => exact ⟨_, _, moves⟩
  | error moves => exact ⟨_, _, moves⟩

theorem bind_eq_match (r : Recorder δ β) (g : β → Recorder δ β') (d : δ) (t : Trace) :
    (r >>= g) d t =
      match r d t with
      | ⟨some y, d, t⟩ => g y d t
      | ⟨none, d, t⟩ => ⟨none, d, t⟩ := by
  simp only [Bind.bind]
  rcases r d t with ⟨_ | _, _, _⟩ <;> rfl

theorem token_bind_eq (g : Token → Recorder δ β) (d : δ) (t : Trace) :
    (token >>= g) d t = g (nextToken t.now.ahead) d t := rfl

theorem bind_pure_eq (r : Recorder δ β) : (r >>= pure) = r := by
  funext d t
  rw [bind_eq_match]
  rcases r d t with ⟨_ | _, _, _⟩ <;> rfl

theorem mirrors_pure {x : α} {y : β} (kept : C.kept x y d) (nameless : C.names x = []) :
    Mirrors (pure x) (pure y) C d t := by
  intro _
  have moves : Moves t (C.names x) [] t := nameless ▸ .refl t
  exact Agrees.ok moves kept

theorem Mirrors.bind (first : Mirrors p r C d t) (nameless : C.names = fun _ => [])
    (lost : C.lost = D.lost)
    (next : ∀ x y d' t', C.kept x y d' → Moves t [] [] t' → Mirrors (f x) (g y) D d' t') :
    Mirrors (p >>= f) (r >>= g) D d t := by
  intro opened
  have begun := first opened
  rw [Parser.bind_eq_match, bind_eq_match]
  generalize p t.now.ahead = result, r d t = ending at begun
  cases begun with
  | ok moves kept =>
    rw [nameless] at moves
    exact (next _ _ _ _ kept moves (moves.opened opened)).after moves
  | error moves same innermost hangs trail gone =>
    exact .error moves same innermost hangs trail (lost ▸ gone)

theorem Mirrors.within {construct : Construct} {lost : List Construct → δ → Prop}
    (inner : Mirrors p r C d t)
    (outer : ∀ rest d', C.lost rest d' → lost (rest ++ [construct]) d') :
    Mirrors (Parser.within construct p) r { C with lost } d t := by
  intro opened
  have begun := inner opened
  unfold Parser.within
  generalize p t.now.ahead = result, r d t = ending at begun
  cases begun with
  | ok moves kept => exact .ok moves kept
  | error moves same innermost hangs trail gone =>
    refine .error moves same innermost hangs ?_ (outer _ _ gone)
    rw [← List.append_assoc, ← trail]

/-- A construct around a recorder that leaves the draft as it is where it gives up. -/
theorem Mirrors.shown {kept : α → β → δ → Prop} {around : Construct}
    (inner : Mirrors p r { kept, lost := fun rest d' => rest = [] ∧ d' = d } d t)
    (construct : δ → Construct) (shows : around = construct d) :
    Mirrors (Parser.within around p) r (.showing construct kept) d t := by
  refine inner.within fun rest d' gone => ?_
  obtain ⟨rfl, rfl⟩ := gone
  rw [shows]
  rfl

theorem Mirrors.of_eq {q : Parser α} (same : p t.now.ahead = q t.now.ahead)
    (mirrors : Mirrors q r C d t) : Mirrors p r C d t := by
  intro opened
  rw [same]
  exact mirrors opened

theorem mirrors_token_bind {f : Token → Parser γ} {g : Token → Recorder δ β'}
    (next : Mirrors (f (nextToken t.now.ahead)) (g (nextToken t.now.ahead)) D d t) :
    Mirrors (Parser.peek >>= f) (token >>= g) D d t := next

theorem mirrors_line_bind {f : Nat → Parser γ} {g : Nat → Recorder δ β'}
    (next : Mirrors (f (nextLine t.now.ahead)) (g (nextLine t.now.ahead)) D d t) :
    Mirrors (Parser.line >>= f) (line >>= g) D d t := next

theorem mirrors_now_bind {p : Parser γ} {g : Point → Recorder δ β'}
    (next : Mirrors p (g t.now) D d t) : Mirrors p (now >>= g) D d t := next

theorem mirrors_get_bind {f : List Lexeme → Parser γ} {g : Point → Recorder δ β'}
    (next : Mirrors (f t.now.ahead) (g t.now) D d t) : Mirrors (get >>= f) (now >>= g) D d t :=
  next

theorem mirrors_here_bind {p : Parser γ} {g : Token → Recorder δ β'}
    (next : Mirrors p (g (nextToken t.now.ahead)) D d t) : Mirrors p (token >>= g) D d t := next

theorem mirrors_draft_bind {p : Parser γ} {g : δ → Recorder δ β'}
    (next : Mirrors p (g d) D d t) : Mirrors p (draft >>= g) D d t := next

theorem mirrors_revise_bind {p : Parser γ} {change : δ → δ} {g : Unit → Recorder δ β'}
    (next : Mirrors p (g ()) D (change d) t) : Mirrors p (revise change >>= g) D d t := next

theorem mirrors_propagate_bind {p : Parser γ} {y : β} {g : β → Recorder δ β'}
    (next : Mirrors p (g y) D d t) : Mirrors p (propagate (some y) >>= g) D d t := next

theorem mirrors_revise {x : α} {change : δ → δ} {C : Contract α Unit δ}
    (kept : C.kept x () (change d)) (nameless : C.names x = []) :
    Mirrors (pure x) (revise change) C d t :=
  mirrors_revise_bind (g := pure) (mirrors_pure kept nameless)

/-- A reading with a draft of its own, of which only what was read is kept. -/
theorem mirrors_fresh_bind {initial : ε} {body : Recorder ε β} {C : Contract α β ε}
    {g : Option β × ε → Recorder δ β'} (inner : Mirrors p body C initial t)
    (nameless : C.names = fun _ => [])
    (lost : ∀ rest d', C.lost rest d' →
      D.lost rest d ∧ ∀ t', g (none, d') d t' = ⟨none, d, t'⟩)
    (next : ∀ x y d' t', C.kept x y d' → Moves t [] [] t' →
      Mirrors (f x) (g (some y, d')) D d t') :
    Mirrors (p >>= f) (fresh initial body >>= g) D d t := by
  intro opened
  have agrees := inner opened
  show Agrees D t ((p >>= f) t.now.ahead)
    (let ending := body initial t
    g (ending.result, ending.draft) d ending.trace)
  rw [Parser.bind_eq_match]
  generalize p t.now.ahead = result, body initial t = ending at agrees
  cases agrees with
  | ok moves kept =>
    rw [nameless] at moves
    exact (next _ _ _ _ kept moves (moves.opened opened)).after moves
  | error moves same innermost hangs trail gone =>
    obtain ⟨gone, end_eq⟩ := lost _ _ gone
    dsimp only
    rw [end_eq]
    exact .error moves same innermost hangs trail gone

/-- A reading with a part of the draft. -/
theorem mirrors_lend_bind {get : δ → ε} {put : ε → δ → δ} {body : Recorder ε β}
    {C : Contract α β ε} (inner : Mirrors p body C (get d) t) (nameless : C.names = fun _ => [])
    (lost : ∀ rest d', C.lost rest d' → D.lost rest (put d' d))
    (next : ∀ x y d' t', C.kept x y d' → Moves t [] [] t' →
      Mirrors (f x) (g y) D (put d' d) t') :
    Mirrors (p >>= f) (lend get put body >>= g) D d t := by
  intro opened
  have agrees := inner opened
  rw [Parser.bind_eq_match, bind_eq_match]
  simp only [lend]
  generalize p t.now.ahead = result, body (get d) t = ending at agrees
  cases agrees with
  | ok moves kept =>
    rw [nameless] at moves
    exact (next _ _ _ _ kept moves (moves.opened opened)).after moves
  | error moves same innermost hangs trail gone =>
    exact .error moves same innermost hangs trail (lost _ _ gone)

theorem mirrors_advance_bind {f : Unit → Parser γ} {g : Unit → Recorder δ β'}
    (more : nextToken t.now.ahead ≠ .endOfInput)
    (next : ∀ t', Moves t [] [] t' → t'.now.ahead = t.now.ahead.tail →
      Mirrors (f ()) (g ()) D d t') :
    Mirrors (Parser.advance >>= f) (advance >>= g) D d t := by
  intro opened
  have moves := Moves.advance more
  exact (next _ moves rfl (moves.opened opened)).after moves

theorem mirrors_advance (more : nextToken t.now.ahead ≠ .endOfInput) :
    Mirrors Parser.advance advance (.plain d) d t :=
  mirrors_advance_bind (f := pure) (g := pure) more fun _ _ _ => mirrors_pure ⟨rfl, rfl⟩ rfl

theorem errorOn_eq {n top : Nat} {message : String} (innermost : t.now.scope.head? = some top) :
    (errorOn n message : Recorder δ Unit) d t =
      ⟨some (), d, t.step (.record ⟨message, n, top⟩)⟩ := by
  simp only [errorOn, now, bind_eq_match, innermost]
  rfl

theorem failOn_eq {n top : Nat} {fault : SyntaxFault} (innermost : t.now.scope.head? = some top) :
    (failOn n fault : Recorder δ β) d t =
      ⟨none, d, t.step (.record ⟨fault.message, n, top⟩)⟩ := by
  rw [failOn, bind_eq_match, errorOn_eq innermost]
  rfl

theorem mirrors_failOn {n : Nat} {fault : SyntaxFault} (lost : C.lost [] d) :
    Mirrors (Parser.failOn n fault) (failOn n fault) C d t := by
  intro opened
  obtain ⟨top, innermost⟩ := opened.exists_innermost
  rw [failOn_eq innermost]
  exact .error (.record innermost) ⟨rfl, rfl, rfl⟩ innermost .here rfl lost

theorem mirrors_fail {fault : SyntaxFault} (lost : C.lost [] d) :
    Mirrors (Parser.fail fault) (fail fault) C d t :=
  mirrors_line_bind (mirrors_failOn lost)

theorem mirrors_unexpected {expected : Expected} (lost : C.lost [] d) :
    Mirrors (Parser.unexpected expected) (unexpected expected) C d t :=
  mirrors_token_bind (mirrors_fail lost)

theorem mirrors_expect {here : Token} {expected : Expected} (more : here ≠ .endOfInput) :
    Mirrors (Parser.expect here expected) (expect here expected) (.plain d) d t := by
  refine mirrors_token_bind ?_
  split
  · next same => exact mirrors_advance (same ▸ more)
  · exact mirrors_unexpected ⟨rfl, rfl⟩

/-! ### Constructs -/

theorem Moves.get?_opened {before : Construct}
    (moves : Moves (t.step (.enter before)) names errors t') :
    t'.now.tree.get? t.now.tree.size = some ⟨t.now.scope.head?, before⟩ := by
  have size : (t.now.enter before).tree.size = t.now.tree.size + 1 := Array.size_push _
  have inside : t.now.tree.size < (t.now.enter before).tree.size := by omega
  exact (moves.kept _ inside).trans get?_push_size

theorem Moves.get?_closed {before : Construct}
    (moves : Moves (t.step (.enter before)) names errors t') (after : Construct) :
    (t'.now.leave t.now.tree.size after).tree.get? t.now.tree.size =
      some ⟨t.now.scope.head?, after⟩ := by
  show (t'.now.tree.set _ _).get? _ = _
  rw [get?_set_self, moves.get?_opened]
  rfl

/-- What a construct around a reading does, which is opened before the reading and closed behind
it. -/
theorem Moves.enclose {top : Nat} {before after : Construct}
    (innermost : t.now.scope.head? = some top)
    (moves : Moves (t.step (.enter before)) names errors t') (revises : before.Revises after)
    (room : before.Nests → t.now.scope.length ≤ maxNesting) :
    Moves t names errors (t'.step (.leave t.now.tree.size after)) := by
  have inner : t'.now.scope = t.now.tree.size :: t.now.scope := moves.scope
  have head : t'.now.scope.head? = some t.now.tree.size := by rw [inner]; rfl
  have size : (t.now.enter before).tree.size = t.now.tree.size + 1 := Array.size_push _
  refine ⟨?_, fun id inside => ?_, moves.spans, moves.declared, moves.errors, moves.exhausted,
    fun run => ?_⟩
  · exact (Point.leave_scope head).trans (by rw [inner]; rfl)
  · have there : id < (t.now.enter before).tree.size := by omega
    have other : id ≠ t.now.tree.size := by omega
    exact (get?_set_ne other).trans ((moves.kept id there).trans (get?_push_of_lt inside))
  · exact .leave after (moves.run (.enter before run innermost room)) head moves.get?_opened revises

/-- The contract of a reading that shows its draft, once that construct is closed. -/
@[reducible] def Contract.closed (C : Contract α β ε) (close : Option β × ε → Construct) :
    Contract α β ε :=
  { C with lost := fun rest d => C.lost (close (none, d) :: rest) d }

theorem Agrees.enclose {C : Contract α β ε} {before : Construct}
    (close : Option β × ε → Construct) {result : Except Failure (α × List Lexeme)}
    {ending : Ending ε β} (opened : t.now.Opened)
    (agrees : Agrees C (t.step (.enter before)) result ending)
    (shows : ∀ rest d, C.lost rest d → ∃ outer, rest = close (none, d) :: outer)
    (revises : ∀ ending, before.Revises (close ending))
    (room : before.Nests → t.now.scope.length ≤ maxNesting) :
    Agrees (C.closed close) t result
      ⟨ending.result, ending.draft, ending.trace.step
        (.leave t.now.tree.size (close (ending.result, ending.draft)))⟩ := by
  obtain ⟨top, innermost⟩ := opened.exists_innermost
  cases agrees with
  | @ok x y d t' moves kept =>
    exact Agrees.ok (C := C.closed close) (moves.enclose innermost (revises (some y, d)) room) kept
  | @error f e d t' inside hang rest moves same here hangs trail lost =>
    obtain rfl : t.now.tree.size = inside := Option.some.inj here
    obtain ⟨outer, rfl⟩ := shows rest d lost
    have closed := moves.enclose innermost (revises (none, d)) room
    -- The construct is where the failure hangs from now on.
    have node := moves.get?_closed (close (none, d))
    rw [innermost] at node
    have earlier : top < t.now.tree.size := opened.exist top (List.mem_of_head? innermost)
    refine .error closed same innermost (hangs.set.extend node earlier) ?_ lost
    rw [trail, List.append_assoc]
    rfl

/-- A construct around a reading with a draft of its own, which it shows. -/
theorem mirrors_enclosed {initial : ε} {body : Recorder ε β} {C : Contract α β ε}
    {construct : Construct} {g : Option β × ε → Recorder δ β'}
    (close : Option β × ε → Construct)
    (inner : Mirrors p body C initial (t.step (.enter construct)))
    (nameless : C.names = fun _ => [])
    (revises : ∀ ending, construct.Revises (close ending))
    (room : construct.Nests → t.now.scope.length ≤ maxNesting)
    (lost : ∀ rest d', C.lost rest d' → ∃ outer d'', rest = close (none, d') :: outer ∧
      D.lost outer d'' ∧ ∀ t', g (none, d') d t' = ⟨none, d'', t'⟩)
    (next : ∀ x y d' t', C.kept x y d' → Moves t [] [] t' →
      Mirrors (f x) (g (some y, d')) D d t') :
    Mirrors (p >>= f) (do
      let id ← enter construct
      let ending ← fresh initial body
      leave id (close ending)
      g ending) D d t := by
  intro opened
  have agrees := (inner (opened.enter construct)).enclose close opened
    (fun rest d' gone => (lost rest d' gone).imp fun _ ⟨_, shown, _⟩ => shown) revises room
  show Agrees D t ((p >>= f) t.now.ahead)
    (let ending := body initial (t.step (.enter construct))
    g (ending.result, ending.draft) d
      (ending.trace.step (.leave t.now.tree.size (close (ending.result, ending.draft)))))
  rw [Parser.bind_eq_match]
  change Agrees _ _ (p t.now.ahead) _ at agrees
  generalize body initial (t.step (.enter construct)) = ending at agrees
  obtain ⟨o, d', t'⟩ := ending
  dsimp only at agrees ⊢
  generalize t'.step (.leave t.now.tree.size (close (o, d'))) = t'' at agrees
  generalize p t.now.ahead = result at agrees
  cases agrees with
  | ok moves kept =>
    rw [nameless] at moves
    exact (next _ _ _ _ kept moves (moves.opened opened)).after moves
  | error moves same innermost hangs trail gone =>
    obtain ⟨outer, d'', shown, gone, end_eq⟩ := lost _ _ gone
    rw [end_eq]
    obtain ⟨-, rfl⟩ := List.cons.inj shown
    exact .error moves same innermost hangs trail gone

/-- A construct that shows no draft around a reading that has none. -/
theorem mirrors_attempted {body : Recorder Unit β} {C : Contract α β Unit} {construct : Construct}
    {g : Option β → Recorder δ β'} (inner : Mirrors p body C () (t.step (.enter construct)))
    (nameless : C.names = fun _ => [])
    (room : construct.Nests → t.now.scope.length ≤ maxNesting)
    (lost : ∀ rest, C.lost rest () → ∃ outer, rest = construct :: outer ∧ D.lost outer d)
    (failing : ∀ t', g none d t' = ⟨none, d, t'⟩)
    (next : ∀ x y t', C.kept x y () → Moves t [] [] t' → Mirrors (f x) (g (some y)) D d t') :
    Mirrors (p >>= f) (do
      let id ← enter construct
      let result ← attempt body
      leave id construct
      g result) D d t := by
  have enclosed := mirrors_enclosed (D := D) (f := f) (d := d) (g := fun ending => g ending.1)
    (fun _ => construct) inner nameless (fun _ => .same construct) room
    (fun rest _ gone =>
      (lost rest gone).imp fun _ ⟨shown, gone⟩ => ⟨d, shown, gone, failing⟩)
    (fun x y _ t' kept moves => next x y t' kept moves)
  exact enclosed

end Recorder

end Attest
