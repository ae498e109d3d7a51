import Dialogue.Cli.Program
/-!
# The program

The only part that reads and writes.  It looks at the files that the arguments name, hands them to
`Cli.program` as a directory, and then prints and writes what that returns.
-/

namespace Dialogue.Cli

/-- The paths on the way along a path, the path itself last. -/
def waypoints (path : String) : List String :=
  let text := path.toList
  ((List.range text.length).filter fun index =>
    match text[index + 1]? with
    | some next => next = '/'
    | none => true).map fun index => String.ofList (text.take (index + 1))

/-- Add what is found at a path to a directory. -/
def lookAt (directory : Directory) (path : String) : IO Directory := do
  try
    let content ← IO.FS.readBinFile path
    return directory.put path (.file content.toList)
  catch error =>
    match error with
    | .inappropriateType _ 21 _ => return directory.put path .folder
    | _ => return directory

/-- The values of some environment variables. -/
def readVariables (names : List String) : IO (Table String) := do
  let mut table := Table.empty
  for name in names do
    match ← IO.getEnv name with
    | some value => table := table.insert name value
    | none => pure ()
  return table

/-- The names of the variables that a configuration file refers to. -/
def referredNames (directory : Directory) (path : String) : List String :=
  match directory.readText path with
  | .ok text => variableNames text.toList
  | .error _ => []

/-- Do what an invocation asks for. -/
def serve (arguments : List String) (invocation : Invocation) : IO UInt32 := do
  let home ← readVariables ["HOME"]
  let inputs := invocation.inputPaths home.get?
  let paths := inputs ++ invocation.outputPath.toList
  let directory ← (paths.flatMap waypoints).foldlM lookAt Directory.empty
  let names := referredNames directory (invocation.configPath home.get?)
  let settings ← readVariables ("HOME" :: names)
  let (code, outcome) := program arguments directory settings.get?
  for warning in outcome.warnings do
    IO.eprintln s!"WARN {warning}"
  IO.print outcome.stdout
  match outcome.written with
  | some (path, bytes) => IO.FS.writeBinFile path ⟨bytes.toArray⟩
  | none => pure ()
  match outcome.errorText with
  | some report => IO.eprintln report
  | none => pure ()
  return UInt32.ofNat code

end Dialogue.Cli

def main (arguments : List String) : IO UInt32 := do
  match Dialogue.Cli.parseArguments arguments with
  | .ok invocation => Dialogue.Cli.serve arguments invocation
  | .error halt =>
      IO.print halt.text
      if halt = .misuse then
        IO.eprintln "The arguments do not say what to do; try --help."
      return UInt32.ofNat halt.exitCode
