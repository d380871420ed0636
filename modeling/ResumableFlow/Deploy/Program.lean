import ResumableFlow.Console.Arguments
import ResumableFlow.Console.Columns
import ResumableFlow.Deploy.Document
import ResumableFlow.Deploy.Flow
import ResumableFlow.Mermaid
import ResumableFlow.Yaml.Printer

/-!
# The command line

The commands that describe the deployment flow, advance a stored instance of it, and show where an
instance is. An instance is stored after every call, whether or not the call succeeded: the
functions of a failed call may have changed the data.
-/

namespace ResumableFlow
namespace Deployment

open Console

/-! ## Failures -/

/-- Why a command fails. -/
inductive CommandError where
  | storage (error : StorageError)
  /-- A call failed at a state. -/
  | call (state : State) (error : FlowError String)
  | flow (error : FlowError String)
  deriving DecidableEq, Repr

namespace CommandError

def message : CommandError → String
  | storage error => error.message
  | call state _ => "Apply failed at state " ++ state.text
  | flow error => error.message id

/-- The message of the error behind the failure of a call. -/
def cause? : CommandError → Option String
  | call _ error => some (error.message id)
  | _ => none

end CommandError

/-- How the program ends. -/
inductive Exit where
  | success
  | failure (error : CommandError)
  | usage (error : UsageError)
  /-- The settings file cannot be taken into the environment, and nothing was done. -/
  | aborted (error : UnstorableVariable)
  deriving DecidableEq, Repr

def Exit.code : Exit → Nat
  | success => 0
  | failure _ => 1
  | usage _ => 2
  | aborted _ => 101

/-! ## Output -/

/-- Whether a command other than `describe` prints text. A flowchart shows the flow only. -/
def isText : OutputFormat → Bool
  | .text | .mermaid => true
  | .json | .yaml => false

/-- A value as JSON or YAML, with the members of each object in the order of their names. -/
def printValue (output : OutputFormat) (value : Json) : String :=
  match output with
  | .json => value.sortKeys.pretty ++ "\n"
  | .yaml => Yaml.render value.sortKeys
  | .text | .mermaid => ""

/-- The rows of a flow in columns, one line for each destination. -/
def rowLines (rows : List Row) : List String :=
  tableRow [("SOURCE", 32), ("KIND", 8), ("DESTINATION", 32), ("REASON", 26)] ::
    rows.flatMap fun row => row.destinations.map fun destination =>
      tableRow [(row.source.id, 32), (if row.exclusive then "dynamic" else "static", 8),
        (destination.event.id, 32), (destination.reason, 26)]

def description (flow : Flow Deployment String) (output : OutputFormat) : String :=
  match output with
  | .mermaid => Mermaid.render flow.describe
  | .text => String.join ((rowLines flow.describe).map (· ++ "\n"))
  | output => printValue output (.obj
      [("flow", .str flow.scope.path), ("transitions", .arr (flow.describe.map Row.toJson)),
        ("total", .nat flow.describe.length)])

/-- The members that tell where an instance is. -/
def instanceMembers (flow : Flow Deployment String) (document : Document) :
    List (String × Json) :=
  [("flow", .str flow.scope.path), ("state", document.state.toJson),
    ("completed", .bool (flow.isCompleted document.state)), ("data", document.data.toJson)]

def statusText (flow : Flow Deployment String) (output : OutputFormat) (document : Document) :
    String :=
  if isText output then
    labelled "Flow" flow.scope.path ++ "\n" ++
      labelled "State" (if document.state.isEmpty then "not started" else document.state.text) ++
      "\n" ++ labelled "Completed" (if flow.isCompleted document.state then "yes" else "no") ++ "\n"
  else printValue output (.obj (instanceMembers flow document))

/-- What `run` prints after its last call. -/
def runText (flow : Flow Deployment String) (output : OutputFormat) (quiet : Bool) (calls : Nat)
    (document : Document) : String :=
  if isText output then
    if flow.isCompleted document.state then "Flow " ++ flow.scope.path ++ " completed\n"
    else if quiet then ""
    else "Flow " ++ flow.scope.path ++ " in progress, run again to continue\n"
  else printValue output (.obj (("calls", .nat calls) :: instanceMembers flow document))

/-! ## Commands -/

/-- The document after one call, and the error if the call failed. A failed call keeps the state. -/
def callOnce (flow : Flow Deployment String) (document : Document) :
    Document × Option (FlowError String) :=
  match flow.apply document.state document.data with
  | (.ok state, data) => (⟨state, data⟩, none)
  | (.error error, data) => (⟨document.state, data⟩, some error)

variable {m : Type → Type} [Monad m]

/-- Call the flow on a loaded document, up to `left` times, and store it after each call. `calls`
calls were made before. The answer is the number of calls and the document they leave. -/
def follow (host : Host m) (flow : Flow Deployment String) (output : OutputFormat) (quiet : Bool)
    (options : RunOptions) :
    (left calls : Nat) → Document → m (Except CommandError (Nat × Document))
  | 0, calls, document => return .ok (calls, document)
  | left + 1, calls, document => do
    if flow.isCompleted document.state then return .ok (calls, document)
    else
      if 0 < calls then host.pause options.interval
      let (next, error) := callOnce flow document
      match ← next.save host options.stateFile with
      | .error error => return .error (.storage error)
      | .ok () =>
        match error with
        | some error => return .error (.call next.state error)
        | none =>
          if isText output && !quiet then host.print (labelled "State" next.state.text ++ "\n")
          if options.follow then follow host flow output quiet options left (calls + 1) next
          else return .ok (calls + 1, next)

/-- Advance the stored instance. -/
def run (host : Host m) (flow : Flow Deployment String) (output : OutputFormat) (quiet : Bool)
    (options : RunOptions) : m Exit := do
  match ← Document.load host options.stateFile with
  | .error error => return .failure (.storage error)
  | .ok document =>
    match ← follow host flow output quiet options options.maxCalls 0 document with
    | .error error => return .failure error
    | .ok (calls, document) =>
      host.print (runText flow output quiet calls document)
      return .success

def status (host : Host m) (flow : Flow Deployment String) (output : OutputFormat)
    (stateFile : String) : m Exit := do
  match ← Document.load host stateFile with
  | .error error => return .failure (.storage error)
  | .ok document =>
    host.print (statusText flow output document)
    return .success

def execute (host : Host m) (flow : Flow Deployment String) (output : OutputFormat) (quiet : Bool) :
    Command → m Exit
  | .describe => do
    host.print (description flow output)
    return .success
  | .run options => run host flow output quiet options
  | .status stateFile => status host flow output stateFile

/-- The configuration that the environment describes. -/
def configuration (environment : Environment) : Config :=
  .ofTexts (environment.lookup "STEPFLOW_MAX_ITERATIONS")
    (environment.lookup "STEPFLOW_ON_ITERATION_LIMIT")

def usage : String :=
  "Usage: stepflow [-o text|json|yaml|mermaid] [-q] describe\n" ++
  "       stepflow [-o text|json|yaml|mermaid] [-q] run [-s FILE] [-f] [--interval-ms N] " ++
    "[--max-calls N]\n" ++
  "       stepflow [-o text|json|yaml|mermaid] [-q] status [-s FILE]\n"

/-- Read the command line and carry it out in an environment. -/
def perform (host : Host m) (environment : Environment) (arguments : List String) : m Exit := do
  match Request.parse environment arguments with
  | .error error => return .usage error
  | .ok .version => do
    host.print "stepflow 0.1.0\n"
    return .success
  | .ok .help => do
    host.print usage
    return .success
  | .ok (.command output quiet command) =>
    match flow (configuration environment) with
    | .error error => return .failure (.flow error)
    | .ok flow => execute host flow output quiet command

/-- The program: take the settings file of the working directory, if there is one, into the
environment, and carry out the command line there. -/
def program (host : Host m) (environment : Environment) (arguments : List String) : m Exit := do
  match ← host.read ".env" with
  | .error _ => perform host environment arguments
  | .ok text =>
    match environment.withSettings text with
    | .error error => return .aborted error
    | .ok environment => perform host environment arguments

end Deployment
end ResumableFlow
