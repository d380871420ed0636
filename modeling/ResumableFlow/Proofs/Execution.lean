import ResumableFlow.Flow.Drive

/-!
# Two ways to execute a tree

`Item.run` executes a tree directly, by recursion on the tree: it is what the kinds of items mean.
`Flow.progress` executes it in calls of the flow that the tree compiles to. Neither need come to
an end, so the first one is given a number of rounds for each loop in the tree, the second one a
number of calls, and both tell whether they have been paused.
-/

namespace ResumableFlow

variable {σ ε : Type}

/-! ## Executions -/

/-- How far an execution has come. `ε` is the type of the errors that it can fail with. -/
inductive Progress (ε : Type) where
  | completed
  | failed (cause : ε)
  /-- The execution would have gone on. -/
  | paused
  deriving DecidableEq, Repr

def Progress.map {ε' : Type} (f : ε → ε') : Progress ε → Progress ε'
  | completed => completed
  | failed cause => failed (f cause)
  | paused => paused

/-- What is executed on a context. -/
abbrev Execution (σ ε : Type) := σ → Progress ε × σ

namespace Execution

def done : Execution σ ε := fun context => (.completed, context)

def pause : Execution σ ε := fun context => (.paused, context)

def attempt (run : Callable σ ε Unit) : Execution σ ε := fun context =>
  match run context with
  | (.ok (), context) => (.completed, context)
  | (.error cause, context) => (.failed cause, context)

/-- Ask the condition and go on as it says. -/
def ask (condition : Callable σ ε Bool) (whenTrue whenFalse : Execution σ ε) : Execution σ ε :=
  fun context =>
    match condition context with
    | (.ok true, context) => whenTrue context
    | (.ok false, context) => whenFalse context
    | (.error cause, context) => (.failed cause, context)

def andThen (first next : Execution σ ε) : Execution σ ε := fun context =>
  match first context with
  | (.completed, context) => next context
  | (.failed cause, context) => (.failed cause, context)
  | (.paused, context) => (.paused, context)

/-- Go on with `again` after `body` fails and the handler agrees. -/
def rescue (body : Execution σ ε) (handler : Handler σ ε) (again : Execution σ ε) :
    Execution σ ε := fun context =>
  match body context with
  | (.completed, context) => (.completed, context)
  | (.failed cause, context) =>
    match handler cause context with
    | (.ok true, context) => again context
    | (.ok false, context) => (.failed cause, context)
    | (.error failure, context) => (.failed failure, context)
  | (.paused, context) => (.paused, context)

/-- Execute the body until the condition holds after it. -/
def repeatUntil (body : Execution σ ε) (condition : Callable σ ε Bool) :
    (rounds : Nat) → Execution σ ε
  | 0 => pause
  | rounds + 1 => body.andThen (ask condition done (repeatUntil body condition rounds))

/-- Execute the body again whenever it fails and the handler agrees. -/
def retrying (body : Execution σ ε) (handler : Handler σ ε) : (rounds : Nat) → Execution σ ε
  | 0 => pause
  | rounds + 1 => body.rescue handler (retrying body handler rounds)

end Execution

/-! ## The direct execution of a tree -/

namespace Item

mutual

/-- Execute the tree, with a number of rounds for each loop in it. What an item of the caller does
shows only when it is compiled. -/
def run (rounds : Nat) : Item σ ε → Execution σ ε
  | activity _ run => .attempt run
  | steps _ items => runSteps rounds items
  | gate _ body condition => .ask condition (body.run rounds) .done
  | loopUntil _ body condition => .repeatUntil (body.run rounds) condition rounds
  | retry body handler => .retrying (body.run rounds) handler rounds
  | waitFor _ condition => .repeatUntil .done condition rounds
  | custom _ _ => .pause

def runSteps (rounds : Nat) : List (Item σ ε) → Execution σ ε
  | [] => .done
  | item :: items => (item.run rounds).andThen (runSteps rounds items)

end

end Item

/-! ## The execution of a tree in calls -/

namespace Flow

/-- Drive the flow from a state until it is completed or a call fails. -/
def progress (flow : Flow σ ε) (calls : Nat) (state : State) : Execution σ (FlowError ε) :=
  fun context =>
    let results := flow.drive false calls ⟨state, context⟩
    let last := Instance.after ⟨state, context⟩ results
    match results.getLast? with
    | some (.error error, _) => (.failed error, last.context)
    | _ => (if flow.isCompleted last.state then .completed else .paused, last.context)

theorem progress_of_isCompleted (flow : Flow σ ε) (calls : Nat) {state : State}
    (done : flow.isCompleted state = true) (context : σ) :
    flow.progress calls state context = (.completed, context) := by
  cases calls with
  | zero => simp [progress, drive, Instance.after, done]
  | succ calls => simp [progress, drive, Instance.after, done]

theorem progress_zero (flow : Flow σ ε) {state : State} (pending : ¬flow.isCompleted state = true)
    (context : σ) : flow.progress 0 state context = (.paused, context) := by
  simp [progress, drive, Instance.after, pending]

theorem progress_of_error (flow : Flow σ ε) (calls : Nat) {state : State}
    (pending : ¬flow.isCompleted state = true) {context : σ} {error : FlowError ε}
    {next : Instance σ} (called : flow.call ⟨state, context⟩ = (.error error, next)) :
    flow.progress (calls + 1) state context = (.failed error, next.context) := by
  simp [progress, drive, Instance.after, pending, called]

/-- After any other call the drive goes on with one call less. -/
theorem progress_of_ok (flow : Flow σ ε) (calls : Nat) {state : State}
    (pending : ¬flow.isCompleted state = true) {context : σ} {answer : State} {next : Instance σ}
    (called : flow.call ⟨state, context⟩ = (.ok answer, next)) :
    flow.progress (calls + 1) state context = flow.progress calls next.state next.context := by
  have driven : flow.drive false (calls + 1) ⟨state, context⟩ =
      (.ok answer, next) :: flow.drive false calls next := by
    simp [drive, pending, called]
  simp only [progress, driven]
  rcases flow.drive false calls next with _ | ⟨first, rest⟩
  · rfl
  · rw [List.getLast?_cons_cons]
    simp only [Instance.after, List.getLast?_cons_cons]
    rfl

end Flow

end ResumableFlow
