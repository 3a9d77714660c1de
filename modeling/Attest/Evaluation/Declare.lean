import Attest.Document.Resolution
import Attest.Evaluation.Store
import Attest.Language.Assertion
/-!
# Binding declarations

Declarations bind their names to the nodes of their paths. Names are checked before any path, and a
path that leads nowhere ends the binding.
-/

namespace Attest

/-- The store after some declarations, those that were bound with the number of their nodes, and
what ended the binding early. -/
structure Declared where
  store : Store
  bound : List (Declaration × Nat)
  error : Option DeclarationError

namespace Store

/-- The first name that is bound, was seen or comes again. -/
def firstDuplicate? (s : Store) (seen : List String) : List Declaration → Option String
  | [] => none
  | d :: rest =>
    if seen.contains d.name || s.contains d.name then some d.name
    else firstDuplicate? s (d.name :: seen) rest

def bind (s : Store) (document : Node) : List Declaration → Declared
  | [] => ⟨s, [], none⟩
  | d :: rest =>
    match document.resolve d.path with
    | [] => ⟨s, [], some (.unresolved d.name (Path.text d.path))⟩
    | nodes =>
      match s.declare d.name ⟨nodes⟩ with
      | .error error => ⟨s, [(d, nodes.length)], some error⟩
      | .ok after =>
        let declared := bind after document rest
        { declared with bound := (d, nodes.length) :: declared.bound }

/-- Binds declarations whose names are new and differ. -/
def resolve (s : Store) (document : Node) (declarations : List Declaration) : Declared :=
  match s.firstDuplicate? [] declarations with
  | some name => ⟨s, [], some (.duplicateName name)⟩
  | none => s.bind document declarations

end Store

end Attest
