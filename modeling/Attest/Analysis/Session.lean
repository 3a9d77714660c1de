import Attest.Analysis.Error
import Attest.Evaluation.Declare
import Attest.Evaluation.Evaluate
/-!
# Sessions

A session evaluates specifications over one document with variables of its own. Declarations that
fail leave it without variables.
-/

namespace Attest

structure Session where
  document : Node
  store : Store := .empty

namespace Session

def declare (s : Session) (declarations : List Declaration) : Session × Declared :=
  let declared := s.store.resolve s.document declarations
  let store := if declared.error.isSome then .empty else declared.store
  ({ s with store }, { declared with store })

def evaluate (s : Session) (tree : AssertionTree) : Outcome :=
  Scope.evaluate ⟨s.document, s.store⟩ tree

/-- Binds the declarations of a specification, then evaluates its assertions. -/
def run (s : Session) (specification : Specification) : Session × Except AnalysisError Bool :=
  let (s, declared) := s.declare specification.declarations
  match declared.error with
  | some error => (s, .error (.declaration error))
  | none => (s, (s.evaluate specification.assertions).result.mapError .assertion)

end Session

end Attest
