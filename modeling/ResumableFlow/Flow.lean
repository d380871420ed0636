import ResumableFlow.Config
import ResumableFlow.Item.Compile
import ResumableFlow.Table

/-!
# Flows

A flow is a compiled tree of items. It holds no state of its own: a caller hands in a state and a
context, and gets the next state back. One call passes silent transitions and ends with the first
exclusive one, so that what the caller stores between two calls is all there is to know.
-/

namespace ResumableFlow

/-! ## Ends of calls -/

/-- How a call ends. `ε` is the type of the errors that the caller's functions raise. -/
inductive Ending (ε : Type) where
  /-- The frontier is the completion of the flow. -/
  | completed (frontier : State)
  /-- An exclusive transition was taken and led to this frontier. -/
  | taken (next : State)
  | failed (cause : ε)
  /-- No transition leads away from any event of the frontier. -/
  | unhandled (frontier : State)
  /-- A silent transition led back to this frontier of the same call. -/
  | cyclic (next : State)
  /-- The call took all the transitions that it may take, and this is the frontier then. -/
  | limited (frontier : State)

/-- What the caller is told at the end of a call. -/
def Ending.answer {ε : Type} (config : Config) : Ending ε → Except (FlowError ε) State
  | completed frontier => .ok frontier
  | taken next => .ok next
  | failed cause => .error (.callable cause)
  | unhandled frontier => .error (.unhandledState frontier)
  | cyclic next => .error (.staticCycle next)
  | limited frontier =>
    match config.onLimit with
    | .yield => .ok frontier
    | .fail => .error (.iterationLimit config.bound)

/-- What one transition leads to: the end of the call or the next frontier. -/
inductive Step (ε : Type) where
  | ends (ending : Ending ε)
  | passes (next : State)

/-! ## Flows and their calls -/

structure Flow (σ ε : Type) where
  /-- The scope of the root item. -/
  scope : Scope
  table : Table σ ε
  config : Config

namespace Flow

variable {σ ε : Type}

/-- Compile an item as the root of a flow. -/
def compile (root : Item σ ε) (config : Config := {}) : Except (FlowError ε) (Flow σ ε) := do
  let compiled ← root.compile none
  return ⟨compiled.scope, .ofList compiled.transitions, config⟩

/-- The event that an instance starts with. -/
def start (flow : Flow σ ε) : Event := flow.scope.start

/-- The event that an instance ends with. -/
def completed (flow : Flow σ ε) : Event := flow.scope.completed

/-- Whether the state waits at the completion of the flow and at nothing else. -/
def isCompleted (flow : Flow σ ε) (state : State) : Bool :=
  state = .ofEvents [flow.completed]

theorem isCompleted_iff (flow : Flow σ ε) (state : State) :
    flow.isCompleted state = true ↔ state = .ofEvents [flow.completed] := by
  simp [isCompleted]

theorem not_isCompleted_empty (flow : Flow σ ε) : ¬flow.isCompleted .empty = true := by
  rw [isCompleted_iff]
  exact State.empty_ne_ofEvents_cons _ _

theorem isCompleted_singleton (flow : Flow σ ε) {event : Event} :
    flow.isCompleted (.ofEvents [event]) = true ↔ event = flow.completed := by
  rw [isCompleted_iff, State.ofEvents_singleton_inj]

/-- The state that a call goes on from: an instance that has not started is put at the start. -/
def entry (flow : Flow σ ε) (state : State) : State :=
  if state.isEmpty then .ofEvents [flow.start] else state

@[simp] theorem entry_empty (flow : Flow σ ε) : flow.entry .empty = .ofEvents [flow.start] := rfl

theorem entry_of_ne_empty (flow : Flow σ ε) {state : State} (h : state ≠ .empty) :
    flow.entry state = state := by
  obtain ⟨events⟩ := state
  cases events with
  | nil => exact absurd rfl h
  | cons _ _ => rfl

/-- Follow the first transition from a frontier. -/
def step (flow : Flow σ ε) (frontier : State) (context : σ) : Step ε × σ :=
  if flow.isCompleted frontier then (.ends (.completed frontier), context)
  else
    match flow.table.lookup frontier with
    | none => (.ends (.unhandled frontier), context)
    | some transition =>
      match transition.take context with
      | (.error cause, context) => (.ends (.failed cause), context)
      | (.ok events, context) =>
        if transition.isExclusive then (.ends (.taken (.ofEvents events)), context)
        else (.passes (.ofEvents events), context)

theorem step_completed (flow : Flow σ ε) {frontier : State}
    (done : flow.isCompleted frontier = true) (context : σ) :
    flow.step frontier context = (.ends (.completed frontier), context) := by
  rw [step, if_pos done]

/-- Take up to `left` transitions from `frontier`, where `seen` are the frontiers of the call so
far. A silent transition that leads back to one of them would lead there for ever. -/
def walk (flow : Flow σ ε) : (left : Nat) → (seen : List State) → (frontier : State) →
    σ → Ending ε × σ
  | 0, _, frontier, context =>
    (if flow.isCompleted frontier then .completed frontier else .limited frontier, context)
  | left + 1, seen, frontier, context =>
    match flow.step frontier context with
    | (.ends ending, context) => (ending, context)
    | (.passes next, context) =>
      if next ∈ seen then (.cyclic next, context)
      else flow.walk left (next :: seen) next context

section walk

variable {flow : Flow σ ε} {left : Nat} {seen : List State} {frontier next : State}
  {context after : σ}

theorem walk_ends {ending : Ending ε} (h : flow.step frontier context = (.ends ending, after)) :
    flow.walk (left + 1) seen frontier context = (ending, after) := by
  simp only [walk, h]

theorem walk_repeats (h : flow.step frontier context = (.passes next, after))
    (repeated : next ∈ seen) :
    flow.walk (left + 1) seen frontier context = (.cyclic next, after) := by
  simp only [walk, h, if_pos repeated]

theorem walk_passes (h : flow.step frontier context = (.passes next, after)) (fresh : next ∉ seen) :
    flow.walk (left + 1) seen frontier context = flow.walk left (next :: seen) next after := by
  simp only [walk, h, if_neg fresh]

end walk

/-- How the call from a state ends. -/
def ending (flow : Flow σ ε) (state : State) (context : σ) : Ending ε × σ :=
  flow.walk flow.config.bound [flow.entry state] (flow.entry state) context

/-- A call whose first step ends is over with that step. -/
theorem ending_of_ends (flow : Flow σ ε) {state : State} {context after : σ} {ending : Ending ε}
    (h : flow.step (flow.entry state) context = (.ends ending, after)) :
    flow.ending state context = (ending, after) := by
  obtain ⟨left, bound⟩ := Nat.exists_eq_add_of_lt flow.config.bound_pos
  rw [Flow.ending, bound, Nat.zero_add]
  exact walk_ends h

/-- Advance an instance by one call. After an error the caller keeps the state that it handed in. -/
def apply (flow : Flow σ ε) (state : State) : Callable σ (FlowError ε) State := fun context =>
  let (ending, context) := flow.ending state context
  (ending.answer flow.config, context)

def describe (flow : Flow σ ε) : List Row := flow.table.rows

end Flow

end ResumableFlow
