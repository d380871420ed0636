import ResumableFlow.Deploy.Program
import ResumableFlow.Proofs.CallCounts
import ResumableFlow.Proofs.Storage

/-!
# Runs on a stored instance

What a run does to a directory, without what it prints, is told by the drive of the instance that
it loads (`Deployment.advance`). Only the first of its documents can fail to be stored, and the
directory that it leaves has the last one in it, so that a run need not be followed from one
document to the next: `Deployment.run_advances` does that once, by induction on the calls.
-/

namespace ResumableFlow

open Console

namespace Document

/-- The instance that a document stores. -/
def toInstance (document : Document) : Instance Deployment := ⟨document.state, document.data⟩

def ofInstance (inst : Instance Deployment) : Document := ⟨inst.state, inst.context⟩

@[simp] theorem toInstance_ofInstance (inst : Instance Deployment) :
    (ofInstance inst).toInstance = inst := rfl

@[simp] theorem ofInstance_toInstance (document : Document) :
    ofInstance document.toInstance = document := rfl

end Document

theorem Console.Desk.pause_if {α : Type} (waits : Prop) [Decidable waits] (milliseconds : Nat)
    (next : Unit → StateM Desk α) :
    (if waits then host.pause milliseconds >>= next else next ()) = next () := by
  split <;> rfl

/-- The number of calls that a run makes at most. -/
def Console.RunOptions.calls (options : RunOptions) (left : Nat) : Nat :=
  if options.follow then left else min left 1

namespace Flow

variable {σ ε : Type}

theorem drive_ok (flow : Flow σ ε) {calls : Nat} {inst next : Instance σ} {state : State}
    (pending : ¬flow.isCompleted inst.state = true) (called : flow.call inst = (.ok state, next)) :
    flow.drive false (calls + 1) inst = (.ok state, next) :: flow.drive false calls next := by
  rw [drive, if_neg pending, called]

theorem drive_error (flow : Flow σ ε) {calls : Nat} {inst next : Instance σ} {error : FlowError ε}
    (pending : ¬flow.isCompleted inst.state = true)
    (called : flow.call inst = (.error error, next)) :
    flow.drive false (calls + 1) inst = [(.error error, next)] := by
  rw [drive, if_neg pending, called]
  rfl

end Flow

namespace Deployment

variable {flow : Flow Deployment String} {output : OutputFormat} {quiet : Bool}
  {options : RunOptions} {document : Document} {desk : Desk}

/-! ## One round -/

/-- The error of a call that failed. -/
def errorOf : CallResult String → Option (FlowError String)
  | .ok _ => none
  | .error error => some error

section round

variable {left calls : Nat} {next : Instance Deployment}
  (pending : ¬flow.isCompleted document.state = true)

theorem callOnce_eq {result : CallResult String}
    (called : flow.call document.toInstance = (result, next)) :
    callOnce flow document = (.ofInstance next, errorOf result) := by
  simp only [Flow.call, Document.toInstance] at called
  rw [callOnce]
  rcases applied : flow.apply document.state document.data with ⟨error | state, data⟩ <;>
    rw [applied] at called <;> cases called <;> rfl

include pending in
/-- A document that cannot be stored ends the run. -/
theorem follow_unsaved {error : StorageError} {changed : Directory}
    (saved : Document.saveTo desk.directory options.stateFile
      (.ofInstance (flow.call document.toInstance).2) = (.error error, changed)) :
    follow Desk.host flow output quiet options (left + 1) calls document desk =
      (.error (.storage error), { desk with directory := changed }) := by
  have stored := Document.save_desk options.stateFile
    (.ofInstance (flow.call document.toInstance).2) desk
  rw [saved] at stored
  rw [follow, if_neg pending, Desk.pause_if]
  rcases called : flow.call document.toInstance with ⟨result, next⟩
  rw [called] at stored
  rw [callOnce_eq called]
  exact Desk.bind_eq stored

include pending in
/-- A failed call ends the run, after the document is stored. -/
theorem follow_failed {error : FlowError String} {changed : Directory}
    (called : flow.call document.toInstance = (.error error, next))
    (saved : Document.saveTo desk.directory options.stateFile (.ofInstance next) =
      (.ok (), changed)) :
    follow Desk.host flow output quiet options (left + 1) calls document desk =
      (.error (.call next.state error), { desk with directory := changed }) := by
  have stored := Document.save_desk options.stateFile (.ofInstance next) desk
  rw [saved] at stored
  rw [follow, if_neg pending, Desk.pause_if, callOnce_eq called]
  exact Desk.bind_eq stored

include pending in
/-- After any other call the run goes on from the document, if it is to follow the flow. -/
theorem follow_called {state : State} {changed : Directory}
    (called : flow.call document.toInstance = (.ok state, next))
    (saved : Document.saveTo desk.directory options.stateFile (.ofInstance next) =
      (.ok (), changed)) : ∃ printed,
    follow Desk.host flow output quiet options (left + 1) calls document desk =
      (if options.follow then
        follow Desk.host flow output quiet options left (calls + 1) (.ofInstance next)
      else pure (.ok (calls + 1, .ofInstance next)) : StateM Desk _) ⟨changed, printed⟩ := by
  have stored := Document.save_desk options.stateFile (.ofInstance next) desk
  rw [saved] at stored
  by_cases shown : (isText output && !quiet) = true
  · refine ⟨desk.printed ++ (labelled "State" next.state.text ++ "\n"), ?_⟩
    rw [follow, if_neg pending, Desk.pause_if, callOnce_eq called]
    refine (Desk.bind_eq stored).trans ?_
    simp only [errorOf, if_pos shown]
    exact Desk.bind_eq (Desk.print_host _ _)
  · refine ⟨desk.printed, ?_⟩
    rw [follow, if_neg pending, Desk.pause_if, callOnce_eq called]
    refine (Desk.bind_eq stored).trans ?_
    simp only [errorOf, if_neg shown]

end round

/-! ## All rounds -/

/-- How a run ends that has made these calls and stored the instance after each of them. -/
def exitAfter (results : List (CallResult String × Instance Deployment)) : Exit :=
  match results.getLast? with
  | some (.error error, last) => .failure (.call last.state error)
  | _ => .success

theorem exitAfter_ok_cons (state : State) (next : Instance Deployment)
    (results : List (CallResult String × Instance Deployment)) :
    exitAfter ((.ok state, next) :: results) = exitAfter results := by
  cases results with
  | nil => rfl
  | cons result results => rw [exitAfter, exitAfter, List.getLast?_cons_cons]

/-- What a run of up to so many calls comes to once it has loaded the document: how it ends, and the
directory that it leaves. -/
def advanceFrom (flow : Flow Deployment String) (file : String) (calls : Nat)
    (directory : Directory) (document : Document) : Exit × Directory :=
  match flow.drive false calls document.toInstance with
  | [] => (.success, directory)
  | first :: rest =>
    match Document.saveTo directory file (.ofInstance first.2) with
    | (.error error, changed) => (.failure (.storage error), changed)
    | (.ok (), _) => (exitAfter (first :: rest), (Document.saveTo directory file
        (.ofInstance (document.toInstance.after (first :: rest)))).2)

/-- What a run comes to. -/
def advance (flow : Flow Deployment String) (file : String) (calls : Nat) (directory : Directory) :
    Exit × Directory :=
  match Document.loadFrom directory file with
  | .error error => (.failure (.storage error), directory)
  | .ok document => advanceFrom flow file calls directory document

section advance

variable {file : String} {directory changed : Directory} {calls : Nat}

theorem advanceFrom_idle (idle : flow.drive false calls document.toInstance = []) :
    advanceFrom flow file calls directory document = (.success, directory) := by
  rw [advanceFrom, idle]

theorem advanceFrom_unsaved (pending : ¬flow.isCompleted document.state = true)
    {error : StorageError} (saved : Document.saveTo directory file
      (.ofInstance (flow.call document.toInstance).2) = (.error error, changed)) :
    advanceFrom flow file (calls + 1) directory document =
      (.failure (.storage error), changed) := by
  rcases called : flow.call document.toInstance with ⟨error | state, next⟩ <;> rw [called] at saved
  · rw [advanceFrom, flow.drive_error pending called]
    simp only [saved]
  · rw [advanceFrom, flow.drive_ok pending called]
    simp only [saved]

variable {temporary target : Place} {next : Instance Deployment}

theorem advanceFrom_failed (stores : directory.StoresAt file temporary target)
    (pending : ¬flow.isCompleted document.state = true) {error : FlowError String}
    (called : flow.call document.toInstance = (.error error, next)) :
    advanceFrom flow file (calls + 1) directory document = (.failure (.call next.state error),
      directory.stored temporary target (Document.ofInstance next).text) := by
  rw [advanceFrom, flow.drive_error pending called]
  simp only [stores.saveTo]
  rfl

/-- After a call that succeeds, a run goes on as a run from the document that it has stored. -/
theorem advanceFrom_called (stores : directory.StoresAt file temporary target)
    (pending : ¬flow.isCompleted document.state = true) {state : State}
    (called : flow.call document.toInstance = (.ok state, next)) :
    advanceFrom flow file (calls + 1) directory document = advanceFrom flow file calls
      (directory.stored temporary target (Document.ofInstance next).text) (.ofInstance next) := by
  rw [advanceFrom, advanceFrom, flow.drive_ok pending called, Document.toInstance_ofInstance]
  simp only [stores.saveTo, exitAfter_ok_cons, Instance.after_cons]
  rcases flow.drive false calls next with _ | ⟨second, rest⟩
  · rfl
  · simp only [stores.stored.saveTo, Directory.stored_stored, Instance.after_cons]

end advance

/-- How a run ends after its rounds. -/
def exitOf : Except CommandError (Nat × Document) → Exit
  | .error error => .failure error
  | .ok _ => .success

variable (flow output quiet options)

/-- The rounds of a run come to what the drive of the document tells. -/
theorem follow_advances : ∀ (left calls : Nat) (document : Document) (desk : Desk),
    ∃ answer printed, follow Desk.host flow output quiet options left calls document desk =
      (answer, ⟨(advanceFrom flow options.stateFile (options.calls left) desk.directory document).2,
        printed⟩) ∧
      exitOf answer =
        (advanceFrom flow options.stateFile (options.calls left) desk.directory document).1
  | 0, calls, document, desk => by
    have none : options.calls 0 = 0 := by
      rw [RunOptions.calls]
      split <;> rfl
    rw [none, advanceFrom_idle rfl]
    exact ⟨_, desk.printed, rfl, rfl⟩
  | left + 1, calls, document, desk => by
    by_cases done : flow.isCompleted document.state = true
    · rw [advanceFrom_idle (flow.drive_of_isCompleted _ _ done), follow, if_pos done]
      exact ⟨_, desk.printed, rfl, rfl⟩
    obtain ⟨more, enough⟩ : ∃ more, options.calls (left + 1) = more + 1 := by
      rw [RunOptions.calls]
      split
      · exact ⟨left, rfl⟩
      · exact ⟨0, by omega⟩
    rcases saved : Document.saveTo desk.directory options.stateFile
      (.ofInstance (flow.call document.toInstance).2) with ⟨error | _, changed⟩
    · rw [enough, follow_unsaved done saved, advanceFrom_unsaved done saved]
      exact ⟨_, _, rfl, rfl⟩
    obtain ⟨temporary, target, stores⟩ := Document.storesAt_of_saveTo (congrArg Prod.fst saved)
    rcases called : flow.call document.toInstance with ⟨error | state, next⟩
    · rw [enough, follow_failed done called (stores.saveTo _),
        advanceFrom_failed stores done called]
      exact ⟨_, _, rfl, rfl⟩
    obtain ⟨printed, goesOn⟩ : ∃ printed,
        follow Desk.host flow output quiet options (left + 1) calls document desk = _ :=
      follow_called done called (stores.saveTo _)
    rw [goesOn, enough, advanceFrom_called stores done called]
    by_cases follows : options.follow = true
    · rw [if_pos follows]
      have rest : more = options.calls left := by
        rw [RunOptions.calls, if_pos follows] at enough ⊢
        omega
      rw [rest]
      exact follow_advances left (calls + 1) (.ofInstance next) ⟨_, printed⟩
    · rw [if_neg follows]
      have rest : more = 0 := by
        rw [RunOptions.calls, if_neg follows] at enough
        omega
      rw [rest, advanceFrom_idle rfl]
      exact ⟨_, printed, rfl, rfl⟩

/-- What a run does, up to what it prints. -/
theorem run_advances (desk : Desk) : ∃ printed,
    run Desk.host flow output quiet options desk =
      ((advance flow options.stateFile (options.calls options.maxCalls) desk.directory).1,
        ⟨(advance flow options.stateFile (options.calls options.maxCalls) desk.directory).2,
          printed⟩) := by
  have loaded := Document.load_desk options.stateFile desk
  rw [advance]
  rcases stored : Document.loadFrom desk.directory options.stateFile with error | document <;>
    rw [stored] at loaded
  · exact ⟨desk.printed, Desk.bind_eq loaded⟩
  · obtain ⟨answer, printed, follows, ends⟩ :=
      follow_advances flow output quiet options options.maxCalls 0 document desk
    rcases answer with error | ⟨calls, last⟩
    · refine ⟨printed, ?_⟩
      simp only
      rw [← ends]
      exact (Desk.bind_eq loaded).trans (Desk.bind_eq follows)
    · refine ⟨printed ++ runText flow output quiet calls last, ?_⟩
      have shows := Desk.print_host (runText flow output quiet calls last)
        ⟨(advanceFrom flow options.stateFile (options.calls options.maxCalls) desk.directory
          document).2, printed⟩
      simp only
      rw [← ends]
      refine ((Desk.bind_eq loaded).trans (Desk.bind_eq follows)).trans ?_
      exact (Desk.bind_eq shows).trans rfl

variable {flow options}

/-! ## Command lines -/

/-- The command line asks for a run with these options. -/
def AsksToRun (environment : Environment) (arguments : List String) (options : RunOptions) : Prop :=
  ∃ output quiet, Request.parse environment arguments = .ok (.command output quiet (.run options))

theorem exists_flow (config : Config) : ∃ flow, Deployment.flow config = .ok flow := ⟨_, rfl⟩

theorem perform_eq_run {environment : Environment} {arguments : List String}
    (asks : AsksToRun environment arguments options)
    (compiles : Deployment.flow (configuration environment) = .ok flow) :
    ∃ output quiet, perform Desk.host environment arguments =
      run Desk.host flow output quiet options := by
  obtain ⟨output, quiet, parsed⟩ := asks
  refine ⟨output, quiet, ?_⟩
  simp only [perform, parsed, compiles, execute]

theorem perform_advances {environment : Environment} {arguments : List String}
    (asks : AsksToRun environment arguments options)
    (compiles : Deployment.flow (configuration environment) = .ok flow) (desk : Desk) :
    ∃ printed, perform Desk.host environment arguments desk =
      ((advance flow options.stateFile (options.calls options.maxCalls) desk.directory).1,
        ⟨(advance flow options.stateFile (options.calls options.maxCalls) desk.directory).2,
          printed⟩) := by
  obtain ⟨output, quiet, eq⟩ := perform_eq_run asks compiles
  rw [eq]
  exact run_advances flow output quiet options desk

/-- The state file of the command line can be stored in an empty directory. -/
theorem storesAt_empty : Directory.StoresAt {} "stepflow-state.json"
    ["home", "stepflow-state.json.tmp"] ["home", "stepflow-state.json"] :=
  ⟨rfl, rfl, nofun, nofun⟩

end Deployment

end ResumableFlow
