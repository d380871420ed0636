import ResumableFlow.Console.Settings
import ResumableFlow.Text.Natural

/-!
# Arguments

What a command line asks for. Options stand before the command they belong to all of, or after it
when they are the command's own. A long option is written in full, with its value after an equals
sign or in the next argument; short options may be written together, and the last of them may have
its value right after it. No option may be given twice.
-/

namespace ResumableFlow
namespace Console

/-! ## Requests -/

/-- How a command prints what it finds. -/
inductive OutputFormat where
  | text
  | json
  | yaml
  | mermaid
  deriving DecidableEq, Repr

def OutputFormat.ofWord? (word : String) : Option OutputFormat :=
  if word = "text" then some text
  else if word = "json" then some json
  else if word = "yaml" then some yaml
  else if word = "mermaid" then some mermaid
  else none

structure RunOptions where
  stateFile : String
  /-- Whether to go on until the flow completes. -/
  follow : Bool := false
  /-- The pause between two calls, in milliseconds. -/
  interval : Nat := 500
  maxCalls : Nat := 1000
  deriving DecidableEq, Repr

inductive Command where
  | describe
  | run (options : RunOptions)
  | status (stateFile : String)
  deriving DecidableEq, Repr

inductive Request where
  | version
  | help
  | command (output : OutputFormat) (quiet : Bool) (command : Command)
  deriving DecidableEq, Repr

/-- Why a command line asks for nothing. -/
inductive UsageError where
  | unknownArgument (text : String)
  | missingValue (option : String)
  | unexpectedValue (option : String)
  | badValue (option value : String)
  | repeated (option : String)
  | missingCommand
  deriving DecidableEq, Repr

/-! ## Scanning -/

structure OptionSpec where
  long : String
  short : Option Char
  takesValue : Bool

structure GivenOption where
  name : String
  value : Option String
  deriving DecidableEq, Repr

inductive OptionsEnd where
  | complete
  /-- At an argument that is no option, with the arguments after it. -/
  | word (text : String) (rest : List String)
  | failed (error : UsageError)
  deriving DecidableEq, Repr

/-- What is left of a group of short options. -/
inductive GroupEnd where
  | complete
  /-- An option that needs the next argument as its value. -/
  | needsValue (name : String)
  | failed (error : UsageError)
  deriving DecidableEq, Repr

/-- Scan the letters of a group of short options. -/
def scanGroup (specs : List OptionSpec) : List Char → List GivenOption × GroupEnd
  | [] => ([], .complete)
  | letter :: letters =>
    match specs.find? (·.short == some letter) with
    | none => ([], .failed (.unknownArgument (String.singleton letter)))
    | some spec =>
      if spec.takesValue then
        match letters with
        | [] => ([], .needsValue spec.long)
        | '=' :: value => ([⟨spec.long, some (String.ofList value)⟩], .complete)
        | value => ([⟨spec.long, some (String.ofList value)⟩], .complete)
      else
        let (options, rest) := scanGroup specs letters
        (⟨spec.long, none⟩ :: options, rest)

inductive ArgumentForm where
  /-- Two dashes, after which no option follows. -/
  | separator
  | long (name : List Char) (value : Option (List Char))
  | short (letters : List Char)
  | word

/-- The form of an argument. A single dash is a word. -/
def ArgumentForm.of : List Char → ArgumentForm
  | ['-', '-'] => separator
  | '-' :: '-' :: rest =>
    match rest.dropWhile (· != '=') with
    | '=' :: value => long (rest.takeWhile (· != '=')) (some value)
    | _ => long rest none
  | '-' :: c :: rest => short (c :: rest)
  | _ => word

/-- Whether an argument can be the value of the option before it. -/
def isValue (argument : String) : Bool :=
  match ArgumentForm.of argument.toList with
  | .word => true
  | _ => false

/-- Scan the options at the start of the arguments. What was scanned before a failure is kept, for
an option there may settle what is asked for. -/
def scan (specs : List OptionSpec) : List String → List GivenOption × OptionsEnd
  | [] => ([], .complete)
  | argument :: rest =>
    let withNext (option : String) : List GivenOption × OptionsEnd :=
      match rest with
      | value :: rest =>
        if isValue value then
          let (options, last) := scan specs rest
          (⟨option, some value⟩ :: options, last)
        else ([], .failed (.missingValue option))
      | [] => ([], .failed (.missingValue option))
    match ArgumentForm.of argument.toList with
    | .word => ([], .word argument rest)
    | .separator =>
      match rest with
      | [] => ([], .complete)
      | text :: _ => ([], .failed (.unknownArgument text))
    | .long name value =>
      match specs.find? (·.long == String.ofList name), value with
      | none, _ => ([], .failed (.unknownArgument argument))
      | some spec, some value =>
        if spec.takesValue then
          let (options, last) := scan specs rest
          (⟨spec.long, some (String.ofList value)⟩ :: options, last)
        else ([], .failed (.unexpectedValue spec.long))
      | some spec, none =>
        if spec.takesValue then withNext spec.long
        else
          let (options, last) := scan specs rest
          (⟨spec.long, none⟩ :: options, last)
    | .short letters =>
      let (group, groupEnd) := scanGroup specs letters
      match groupEnd with
      | .complete =>
        let (options, last) := scan specs rest
        (group ++ options, last)
      | .needsValue option =>
        let (options, last) := withNext option
        (group ++ options, last)
      | .failed error => (group, .failed error)

/-! ## Values -/

/-- The value of an option that is given at most once. -/
def single? (name : String) (options : List GivenOption) :
    Except UsageError (Option GivenOption) :=
  match options.filter (·.name == name) with
  | [] => .ok none
  | [option] => .ok (some option)
  | _ => .error (.repeated name)

def flag (name : String) (options : List GivenOption) : Except UsageError Bool := do
  return (← single? name options).isSome

/-- The value of an option, read by `read`, or a default. -/
def option {α : Type} (name : String) (default : α) (read : String → Option α)
    (options : List GivenOption) : Except UsageError α := do
  match ← single? name options with
  | none => return default
  | some given =>
    let value := given.value.getD ""
    match read value with
    | some read => return read
    | none => throw (.badValue name value)

/-- A path is any text but the empty one. -/
def path? (text : String) : Option String := if text.isEmpty then none else some text

/-- The state file: the one that is given, else the one that the environment names, else the one in
the working directory. -/
def stateFile (environment : Environment) (options : List GivenOption) :
    Except UsageError String := do
  match ← option "state-file" none (fun text => (path? text).map some) options with
  | some path => return path
  | none =>
    match environment.lookup "STEPFLOW_STATE_FILE" with
    | none => return "stepflow-state.json"
    | some text =>
      match path? text with
      | some path => return path
      | none => throw (.badValue "state-file" text)

/-! ## Commands -/

/-- The option that every command knows. -/
def helpSpec : OptionSpec := ⟨"help", some 'h', false⟩

def globalSpecs : List OptionSpec :=
  [⟨"output", some 'o', true⟩, ⟨"quiet", some 'q', false⟩, helpSpec, ⟨"version", some 'V', false⟩]

def runSpecs : List OptionSpec :=
  [⟨"state-file", some 's', true⟩, ⟨"follow", some 'f', false⟩, ⟨"interval-ms", none, true⟩,
    ⟨"max-calls", none, true⟩, helpSpec]

def statusSpecs : List OptionSpec := [⟨"state-file", some 's', true⟩, helpSpec]

/-- Read the arguments after a command's name. Help is given as soon as it is asked for. -/
def parseOwn {α : Type} (specs : List OptionSpec) (arguments : List String)
    (read : List GivenOption → Except UsageError α) : Except UsageError (Option α) :=
  let (options, last) := scan specs arguments
  match options.span (·.name != "help") with
  | (before, _ :: _) => (read before).map fun _ => none
  | (_, []) =>
    match last with
    | .complete => (read options).map some
    | .word text _ => .error (.unknownArgument text)
    | .failed error => .error error

def runOptions (environment : Environment) (options : List GivenOption) :
    Except UsageError Command := do
  let follow ← flag "follow" options
  let interval ← option "interval-ms" 500 Natural.ofText? options
  let maxCalls ← option "max-calls" 1000 Natural.ofText? options
  return .run { stateFile := ← stateFile environment options, follow, interval, maxCalls }

/-- Read a command and the arguments after its name; `none` is a request for help. -/
def parseCommand (environment : Environment) (name : String) (arguments : List String) :
    Except UsageError (Option Command) :=
  if name = "describe" then parseOwn [helpSpec] arguments fun _ => .ok .describe
  else if name = "run" then parseOwn runSpecs arguments (runOptions environment)
  else if name = "status" then
    parseOwn statusSpecs arguments fun options => do
      return .status (← stateFile environment options)
  else if name = "help" then
    match arguments with
    | [] => .ok none
    | [topic] =>
      if topic ∈ ["describe", "run", "status", "help"] then .ok none
      else .error (.unknownArgument topic)
    | topic :: _ => .error (.unknownArgument topic)
  else .error (.unknownArgument name)

def globalOptions (options : List GivenOption) : Except UsageError (OutputFormat × Bool) := do
  return (← option "output" .text OutputFormat.ofWord? options, ← flag "quiet" options)

def Request.parse (environment : Environment) (arguments : List String) :
    Except UsageError Request := do
  let (options, last) := scan globalSpecs arguments
  match options.span fun option => option.name != "help" && option.name != "version" with
  | (before, asked :: _) =>
    let _ ← globalOptions before
    return if asked.name = "help" then .help else .version
  | (_, []) =>
    let (output, quiet) ← globalOptions options
    match last with
    | .complete => throw .missingCommand
    | .failed error => throw error
    | .word name rest =>
      match ← parseCommand environment name rest with
      | none => return .help
      | some parsed => return .command output quiet parsed

end Console
end ResumableFlow
