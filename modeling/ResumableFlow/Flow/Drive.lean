import ResumableFlow.Flow

/-!
# Driving a flow

An instance is a state together with the context of its functions. Driving it means calling the flow
again and again, with each state that comes back, until the flow is completed, a call fails or a
number of calls has been made.
-/

namespace ResumableFlow

variable {σ ε : Type}

structure Instance (σ : Type) where
  state : State
  context : σ

abbrev CallResult (ε : Type) := Except (FlowError ε) State

namespace Flow

/-- Advance the instance by one call. A call that fails leaves the state as it was, and keeps what
its functions did to the context. -/
def call (flow : Flow σ ε) (inst : Instance σ) : CallResult ε × Instance σ :=
  match flow.apply inst.state inst.context with
  | (.ok state, context) => (.ok state, ⟨state, context⟩)
  | (.error error, context) => (.error error, ⟨inst.state, context⟩)

/-- Call the flow a number of times, whatever comes back. -/
def calls (flow : Flow σ ε) : (times : Nat) → Instance σ → List (CallResult ε × Instance σ)
  | 0, _ => []
  | times + 1, inst =>
    let (result, next) := flow.call inst
    (result, next) :: flow.calls times next

/-- Call the flow at most `calls` times and stop at completion. A failed call ends the drive unless
failures are `resubmitted`. The results come with the instance after each call, in order. -/
def drive (flow : Flow σ ε) (resubmit : Bool) :
    (calls : Nat) → Instance σ → List (CallResult ε × Instance σ)
  | 0, _ => []
  | calls + 1, inst =>
    if flow.isCompleted inst.state then []
    else
      match flow.call inst with
      | (.ok state, next) => (.ok state, next) :: flow.drive resubmit calls next
      | (.error error, next) =>
        (.error error, next) :: if resubmit then flow.drive resubmit calls next else []

end Flow

/-- The instance that a list of calls leaves, when it began with `inst`. -/
def Instance.after (inst : Instance σ) (calls : List (CallResult ε × Instance σ)) : Instance σ :=
  (calls.getLast?.map Prod.snd).getD inst

end ResumableFlow
