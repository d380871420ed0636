import ResumableFlow.Deploy.Program

/-!
# The executable

The program on the machine's own files, environment and terminal.
-/

namespace ResumableFlow
namespace Main

open Console

/-- Read a file; a path at which nothing stands is told apart from one that cannot be read. -/
def readFile (path : String) : IO (Except PathFailure String) := do
  try
    return .ok (← IO.FS.readFile path)
  catch
    | .noFileOrDirectory .. => return .error .missing
    | _ => return .error .blocked

/-- Run an action and tell whether it succeeded. -/
def succeeds (action : IO Unit) : IO Bool := do
  try
    action
    return true
  catch _ => return false

def machine : Host IO where
  read := readFile
  write path content := succeeds (IO.FS.writeFile path content)
  rename source target := succeeds (IO.FS.rename source target)
  print text := do
    let out ← IO.getStdout
    out.putStr text
    out.flush
  pause milliseconds := IO.sleep (.ofNat milliseconds)

/-- The variables that the program looks at. -/
def settingNames : List String :=
  ["STEPFLOW_MAX_ITERATIONS", "STEPFLOW_ON_ITERATION_LIMIT", "STEPFLOW_STATE_FILE"]

def environment : IO Environment :=
  settingNames.filterMapM fun name => do
    return (← IO.getEnv name).map (name, ·)

def report : Deployment.Exit → IO Unit
  | .success => pure ()
  | .failure error => do
    IO.eprintln s!"Error: {error.message}"
    match error.cause? with
    | some cause => IO.eprintln s!"\nCaused by:\n    {cause}"
    | none => pure ()
  | .usage _ => IO.eprint Deployment.usage
  | .aborted error => IO.eprintln s!"Error: {error.message}"

end Main
end ResumableFlow

def main (arguments : List String) : IO UInt32 := do
  let environment ← ResumableFlow.Main.environment
  let ended ← ResumableFlow.Deployment.program ResumableFlow.Main.machine environment arguments
  ResumableFlow.Main.report ended
  return .ofNat ended.code
