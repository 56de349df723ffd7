import RouteHealth.CommandLine

/-!
# The program

Reads the document and prints the outcome of the command.
-/

open RouteHealth

/-- the text of a file, if it can be read -/
def readText? (path : String) : IO (Option String) := do
  try
    return some (← IO.FS.readFile path)
  catch _ =>
    return none

/-- the command, run on its arguments -/
def main (args : List String) : IO UInt32 := do
  let text ← match CommandLine.Options.ofArguments args with
    | .ok o => readText? o.file
    | .error _ => pure none
  let outcome := CommandLine.run (fun _ => text) args
  for line in outcome.lines do
    IO.println line
  match outcome.failure with
  | some (.render e) => IO.eprintln e.message
  | some .input => IO.eprintln "the document cannot be read"
  | some .usage => IO.eprintln "usage: FILE [-J N] [--open] [--hold-time N] [--router-id A] [--json]"
  | none => pure ()
  return outcome.exitCode.toUInt32
