import Attest.CommandLine
/-!
# Program

Reads the files and the standard input that the arguments ask for, and writes what the command
gives.
-/

namespace Attest

def readFile (path : String) : IO (Except ReadError String) := do
  try
    return ReadError.decode (← IO.FS.readBinFile path)
  catch error =>
    return .error <| match error with
      | .noFileOrDirectory .. => .notFound
      | .inappropriateType .. => .isDirectory
      | other => .other (toString other)

/-- The text of each file that a command may read. -/
def readFiles (command : Command) : IO Files := do
  let texts ← command.paths.mapM fun path => return (path, ← readFile path)
  return fun path => (texts.lookup path).getD (.error .notFound)

def readInput (command : Command) : IO StandardInput := do
  let stdin ← IO.getStdin
  if ← stdin.isTty then
    return .terminal
  return .bytes (← if command.readsStandardInput then stdin.readBinToEnd else pure .empty)

end Attest

open Attest in
def main (arguments : List String) : IO UInt32 := do
  let output ← match Command.ofArguments? arguments with
    | some command => pure (command.run (← readFiles command) (← readInput command))
    | none => pure (Command.runArguments arguments (fun _ => .error .notFound) .terminal)
  IO.print output.stdout
  IO.eprint output.stderr
  return output.exit
