import ResumableFlow.Console.Host
import ResumableFlow.Console.Path
import ResumableFlow.Deploy.Data
import ResumableFlow.Stored

/-!
# Stored instances

An instance of the deployment flow is stored in a file: its state and its data as one JSON object. A
missing file is an instance that has not started. To store an instance, its document is written to a
temporary sibling of the file, which then takes the place of the file, so that no reader finds half
a document.
-/

namespace ResumableFlow

structure Document where
  state : State := .empty
  data : Deployment := {}
  deriving DecidableEq, Repr

/-- Why an instance cannot be loaded or stored. -/
inductive StorageError where
  /-- The file at the path cannot be read. -/
  | unreadable (path : String)
  | invalid (path : String)
  /-- The temporary file at the path cannot be written. -/
  | unwritable (path : String)
  /-- The temporary file cannot take the place of the file at the path. -/
  | irreplaceable (path : String)
  deriving DecidableEq, Repr

def StorageError.message : StorageError → String
  | unreadable path => "Failed to read state file " ++ path
  | invalid path => "Invalid state file " ++ path
  | unwritable path => "Failed to write " ++ path
  | irreplaceable path => "Failed to replace state file " ++ path

namespace Document

def toJson (document : Document) : Json :=
  .obj [("state", document.state.toJson), ("data", document.data.toJson)]

/-- Read a document. Each part that is left out has its default. -/
def ofJson? (value : Json) : Option Document := do
  match ← value.fields? ["state", "data"] with
  | [state, data] =>
    return { state := ← Json.withDefault .empty State.ofJson? state
             data := ← Json.withDefault {} Deployment.ofJson? data }
  | _ => none

def text (document : Document) : String := document.toJson.pretty

def ofText? (text : String) : Option Document := (Json.parse text).bind ofJson?

variable {m : Type → Type} [Monad m]

def load (host : Console.Host m) (path : String) : m (Except StorageError Document) := do
  match ← host.read path with
  | .ok text =>
    match ofText? text with
    | some document => return .ok document
    | none => return .error (.invalid path)
  | .error .missing => return .ok {}
  | .error .blocked => return .error (.unreadable path)

def save (host : Console.Host m) (path : String) (document : Document) :
    m (Except StorageError Unit) := do
  let temporary := Console.temporaryPath path
  if ← host.write temporary document.text then
    if ← host.rename temporary path then return .ok ()
    else return .error (.irreplaceable path)
  else return .error (.unwritable temporary)

end Document

end ResumableFlow
