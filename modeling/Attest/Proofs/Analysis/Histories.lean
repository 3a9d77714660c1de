import Attest.Analysis.Analyzer
/-!
# Histories of an analyzer

What an analyzer goes through is a list of calls. Whatever came before, a call leaves the variables
as they are, drops them, takes one away, puts one, or binds those of a specification.
-/

namespace Attest

namespace Analyzer

/-- A call of an analyzer. Evaluations come with the files as they are at the time. -/
inductive Call
  | setInput (document : Node)
  | setJson (text : String)
  | setXml (text : String)
  | setEntries (entries : List (String × Node))
  | setSource (text : String)
  | setSourceFile (path : String)
  | evaluate (files : Files)
  | evaluateText (files : Files) (text : String)
  | putVariable (name : String) (binding : Binding)
  | removeVariable (name : String)

/-- The analyzer after a call. An input that cannot be read leaves it as it is. -/
def after (a : Analyzer) : Call → Analyzer
  | .setInput document => a.setInput document
  | .setJson text => (a.setJson text).toOption.getD a
  | .setXml text => (a.setXml text).toOption.getD a
  | .setEntries entries => a.setEntries entries
  | .setSource text => a.setSource text
  | .setSourceFile path => a.setSourceFile path
  | .evaluate files => (a.evaluate files).analyzer
  | .evaluateText files text => (a.evaluateText files text).analyzer
  | .putVariable name binding => a.putVariable name binding
  | .removeVariable name => a.removeVariable name

def run (a : Analyzer) : List Call → Analyzer
  | [] => a
  | call :: calls => (a.after call).run calls

/-- Variables are put from outside. -/
def Call.puts : Call → Bool
  | .putVariable .. => true
  | _ => false

/-- The specification of an evaluation, with the document over which it is to run. -/
def attempted? (a : Analyzer) (files : Files) (text : String) : Option (Node × Specification) := do
  let document ← a.input
  let source ← (a.sourceText files text).toOption
  let specification ← (Specification.parse source).toOption
  return (document, specification)

variable {a : Analyzer} {files : Files} {text : String} {document : Node}
  {specification : Specification}

theorem input_of_attempted (attempt : a.attempted? files text = some (document, specification)) :
    a.input = some document := by
  simp only [attempted?, Option.bind_eq_bind, Option.bind_eq_some_iff] at attempt
  obtain ⟨_, loaded, _, _, _, _, same⟩ := attempt
  cases same
  exact loaded

/-- An evaluation whose text is read runs what it says over the document. -/
theorem evaluateText_of_attempted
    (attempt : a.attempted? files text = some (document, specification)) :
    a.evaluateText files text = a.runSpecification document specification := by
  simp only [attempted?, Option.bind_eq_bind, Option.bind_eq_some_iff] at attempt
  obtain ⟨_, loaded, source, chosen, _, parsed, same⟩ := attempt
  cases same
  unfold evaluateText
  cases found : a.sourceText files text with
  | error error =>
    rw [found] at chosen
    cases chosen
  | ok other =>
    rw [found] at chosen
    cases chosen
    cases read : Specification.parse source with
    | error errors =>
      rw [read] at parsed
      cases parsed
    | ok other =>
      rw [read] at parsed
      cases parsed
      simp only [loaded, read]

/-- Any other evaluation is refused, and leaves the analyzer as it is. -/
theorem evaluateText_of_not_attempted (refused : a.attempted? files text = none) :
    ∃ error, a.evaluateText files text = a.refuse error ∧ ∀ e, error ≠ .declaration e := by
  unfold evaluateText
  cases loaded : a.input with
  | none => exact ⟨_, rfl, nofun⟩
  | some document =>
    dsimp only
    cases chosen : a.sourceText files text with
    | error error => exact ⟨_, rfl, nofun⟩
    | ok source =>
      dsimp only
      cases parsed : Specification.parse source with
      | error errors => exact ⟨_, rfl, nofun⟩
      | ok specification => simp [attempted?, loaded, chosen, parsed, Except.toOption] at refused

end Analyzer

end Attest
