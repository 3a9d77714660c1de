import Attest.Analysis.Check
import Attest.Language.Manual
/-!
# Command line

What the arguments ask for, and what the program writes and how it ends, given the files and the
input that it reads.
-/

namespace Attest

structure CheckCommand where
  source : Option String := none
  sourceFile : Option String := none
  input : Option String := none
  inputFile : Option String := none
  format : InputFormat := .json
  syntaxOnly : Bool := false
  showVariables : Bool := false
  /-- Records up to this level are shown. -/
  logLevel : Option Level := none

inductive Command
  | check (command : CheckCommand)
  | forms
  | version

namespace CheckCommand

/-! ### Arguments -/

def format? : String → Option InputFormat
  | "json" => some .json
  | "xml" => some .xml
  | "map" => some .map
  | _ => none

def logLevel? : String → Option (Option Level)
  | "off" => some none
  | "error" => some (some .error)
  | "warn" => some (some .warn)
  | "info" => some (some .info)
  | "debug" => some (some .debug)
  | _ => none

inductive ValueOption
  | file
  | input
  | inputFile
  | format
  | logLevel
  deriving DecidableEq, Repr

def ValueOption.ofLong? : String → Option ValueOption
  | "--file" => some .file
  | "--input" => some .input
  | "--input-file" => some .inputFile
  | "--format" => some .format
  | "--log-level" => some .logLevel
  | _ => none

def ValueOption.ofShort? : Char → Option ValueOption
  | 'f' => some .file
  | 'i' => some .input
  | _ => none

def set (c : CheckCommand) (value : String) : ValueOption → Option CheckCommand
  | .file => some { c with sourceFile := some value }
  | .input => some { c with input := some value }
  | .inputFile => some { c with inputFile := some value }
  | .format => (format? value).map fun format => { c with format }
  | .logLevel => (logLevel? value).map fun logLevel => { c with logLevel }

/-- Takes an argument that is no option. -/
def setSource (c : CheckCommand) (value : String) : Option CheckCommand :=
  if c.source.isSome then none else some { c with source := some value }

/-- An option with its value in the same argument: `--name=value`, `-nvalue` or `-n=value`. -/
def attached? (argument : String) : Option (ValueOption × String) :=
  match argument.toList with
  | '-' :: '-' :: rest =>
    let name := rest.takeWhile (· != '=')
    match rest.dropWhile (· != '=') with
    | [] => none
    | _ :: value =>
      (ValueOption.ofLong? (String.ofList ('-' :: '-' :: name))).map (·, String.ofList value)
  | '-' :: name :: '=' :: value => (ValueOption.ofShort? name).map (·, String.ofList value)
  | '-' :: name :: first :: value =>
    (ValueOption.ofShort? name).map (·, String.ofList (first :: value))
  | _ => none

/-- An option whose value is the next argument. -/
def detached? (argument : String) : Option ValueOption :=
  match argument.toList with
  | ['-', name] => ValueOption.ofShort? name
  | _ => ValueOption.ofLong? argument

/-- Reads arguments into a command; after `--` none is an option. -/
def ofArguments (options : Bool) (c : CheckCommand) : List String → Option CheckCommand
  | [] => some c
  | argument :: rest =>
    if !options || !argument.startsWith "-" || argument = "-" then
      (c.setSource argument).bind fun c => ofArguments options c rest
    else if argument = "--" then ofArguments false c rest
    else if argument = "--syntax-only" then ofArguments options { c with syntaxOnly := true } rest
    else if argument = "--show-variables" then
      ofArguments options { c with showVariables := true } rest
    else
      match attached? argument, detached? argument with
      | some (option, value), _ => (c.set value option).bind fun c => ofArguments options c rest
      | none, some option =>
        match rest with
        | value :: rest => (c.set value option).bind fun c => ofArguments options c rest
        | [] => none
      | none, none => none

/-- At most one source and at most one input are given. -/
def isConsistent (c : CheckCommand) : Bool :=
  !(c.source.isSome && c.sourceFile.isSome) && !(c.input.isSome && c.inputFile.isSome)

end CheckCommand

def Command.ofArguments? : List String → Option Command
  | ["--version"] | ["-V"] => some .version
  | ["forms"] => some .forms
  | "check" :: arguments =>
    (CheckCommand.ofArguments true {} arguments).bind fun c =>
      if c.isConsistent then some (.check c) else none
  | _ => none

/-! ### Running -/

inductive StandardInput
  | terminal
  | bytes (content : ByteArray)

instance : Coe ByteArray StandardInput := ⟨.bytes⟩

/-- The text of the standard input. None is waited for at a terminal. -/
def StandardInput.read : StandardInput → Except ReadError (Option String)
  | .terminal => .ok none
  | .bytes content => (ReadError.decode content).map some

structure CommandOutput where
  exit : UInt32
  stdout : String := ""
  stderr : String := ""

namespace CheckCommand

/-- The input is read from the standard input, unless that is a terminal. -/
def readsStandardInput (c : CheckCommand) : Bool :=
  c.input.isNone && c.inputFile.isNone && !c.syntaxOnly

def inputText (c : CheckCommand) (files : Files) (stdin : StandardInput) :
    Except ReadError (Option String) :=
  match c.input, c.inputFile with
  | some text, _ => .ok (some text)
  | none, some path => (files path).map some
  | none, none => if c.readsStandardInput then stdin.read else .ok none

/-- The lines of the log that are shown, with levels in a column of their own. -/
def logLines (c : CheckCommand) (records : List Record) : List String :=
  let shown := records.filter fun record =>
    c.logLevel.any fun level => record.level.rank ≤ level.rank
  shown.map fun record =>
    String.ofList (List.replicate (5 - record.level.name.length) ' ') ++ record.level.name ++
      " - " ++ record.text

def unlines (lines : List String) : String :=
  String.join (lines.map (· ++ "\n"))

def report (c : CheckCommand) : CheckResult → CommandOutput
  | .readable declarations assertions =>
    ⟨ExitCode.pass,
      unlines ["Syntax is valid (" ++ toString declarations ++ " declarations, " ++
        toString assertions ++ " assertions)"], ""⟩
  | .evaluated passed store =>
    let shown := if c.showVariables
      then store.entries.map fun entry => entry.1 ++ " = " ++ entry.2.value.text
      else []
    ⟨if passed then ExitCode.pass else ExitCode.fail,
      unlines (shown ++ [if passed then "PASS" else "FAIL"]), ""⟩

def reportError (error : CheckError) : CommandOutput :=
  ⟨error.exitCode, "", unlines (error.message :: error.diagnostics.map Diagnostic.text)⟩

def run (c : CheckCommand) (files : Files) (stdin : StandardInput) : CommandOutput :=
  match c.inputText files stdin with
  | .error error => reportError (.unreadable error)
  | .ok input =>
    let options : CheckOptions :=
      { source := c.source, sourceFile := c.sourceFile, input, format := c.format,
        syntaxOnly := c.syntaxOnly }
    let (result, records) := options.run files
    let output := match result with
      | .ok result => c.report result
      | .error error => reportError error
    { output with stderr := unlines (c.logLines records) ++ output.stderr }

end CheckCommand

namespace Command

def usageText : String :=
  "Usage: specl check [OPTIONS] [SOURCE]\n       specl forms\n"

def run (files : Files) (stdin : StandardInput) : Command → CommandOutput
  | .check c => c.run files stdin
  | .forms => ⟨ExitCode.pass, manual, ""⟩
  | .version => ⟨ExitCode.pass, "specl 0.1.0\n", ""⟩

def runArguments (arguments : List String) (files : Files) (stdin : StandardInput) :
    CommandOutput :=
  match ofArguments? arguments with
  | some command => command.run files stdin
  | none => ⟨ExitCode.fail, "", usageText⟩

/-- The files that a command may read. -/
def paths : Command → List String
  | .check c => c.inputFile.toList ++ c.sourceFile.toList
  | _ => []

def readsStandardInput : Command → Bool
  | .check c => c.readsStandardInput
  | _ => false

end Command

end Attest
