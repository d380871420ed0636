import ResumableFlow.Item

/-!
# Compilation

An item compiles, below an enclosing scope, to its own scope and a flat list of transitions. The
list leads from the start of the scope to its completion, and no item emits a transition that leaves
its own completion: that is for the item around it to say.

The name of an item is examined before the items in it. A sequence compiles its items from left to
right and notices a repeated name right after the item that repeats it has compiled.
-/

namespace ResumableFlow

variable {σ ε : Type}

namespace Compiled

/-- The compilation of an activity: one exclusive edge from its start to its completion. -/
def activity (scope : Scope) (run : Callable σ ε Unit) : Compiled σ ε :=
  ⟨scope, [.chosen scope.start true [⟨scope.completed, "completed"⟩]
    (run.map fun _ => [scope.completed])]⟩

/-- The compilation of a wait: one exclusive edge that stays at its start
until the condition holds. -/
def waitFor (scope : Scope) (condition : Callable σ ε Bool) : Compiled σ ε :=
  ⟨scope, [.branch scope.start
    [⟨scope.start, "wait condition is not met"⟩, ⟨scope.completed, "wait condition is met"⟩]
    condition [scope.completed] [scope.start]]⟩

/-- The compilation of a gate around a compiled body: the condition leads
into the body or past it. -/
def gate (scope : Scope) (body : Compiled σ ε) (condition : Callable σ ε Bool) : Compiled σ ε :=
  ⟨scope,
    .branch scope.start
      [⟨body.scope.start, "case condition is met"⟩,
        ⟨scope.completed, "case condition is not met"⟩]
      condition [body.scope.start] [scope.completed] ::
    .fixed body.scope.completed scope.completed ::
    body.transitions⟩

/-- The compilation of a loop around a compiled body: the condition, asked after the body, leads out
of the loop or back to the start of the body. -/
def loopUntil (scope : Scope) (body : Compiled σ ε) (condition : Callable σ ε Bool) :
    Compiled σ ε :=
  ⟨scope,
    .fixed scope.start body.scope.start ::
    .branch body.scope.completed
      [⟨body.scope.start, "loop condition is not met"⟩,
        ⟨scope.completed, "loop condition is met"⟩]
      condition [scope.completed] [body.scope.start] ::
    body.transitions⟩

/-- The compilation of a retry: every transition of the body, under the handler, with a way back to
the start of the body. -/
def retry (body : Compiled σ ε) (handler : Handler σ ε) : Compiled σ ε :=
  ⟨body.scope, body.transitions.map fun transition =>
    .guarded transition body.scope.start handler⟩

end Compiled

namespace Item

mutual

/-- Compile the item below an enclosing scope. -/
def compile : Item σ ε → Option Scope → Except (FlowError ε) (Compiled σ ε)
  | activity name run, parent => do
    validateName name
    return .activity (.nest parent name) run
  | steps name items, parent => do
    validateName name
    let scope := Scope.nest parent name
    return ⟨scope, ← compileSteps scope [] scope.start items⟩
  | gate name body condition, parent => do
    validateName name
    let scope := Scope.nest parent name
    return .gate scope (← body.compile (some scope)) condition
  | loopUntil name body condition, parent => do
    validateName name
    let scope := Scope.nest parent name
    return .loopUntil scope (← body.compile (some scope)) condition
  | retry body handler, parent => do
    return .retry (← body.compile parent) handler
  | waitFor name condition, parent => do
    validateName name
    return .waitFor (.nest parent name) condition
  | custom _ compile, parent => compile parent

/-- Compile the items of the sequence `scope` from the event `last` on, where `taken` are the names
of the items before them. Silent edges join each item to the next one and the last one to the
completion of the sequence. -/
def compileSteps (scope : Scope) (taken : List String) (last : Event) :
    List (Item σ ε) → Except (FlowError ε) (List (Transition σ ε))
  | [] => return [.fixed last scope.completed]
  | item :: items => do
    let child ← item.compile (some scope)
    if child.scope.name ∈ taken then
      throw (.duplicateName scope.path child.scope.name)
    let following ← compileSteps scope (child.scope.name :: taken) child.scope.completed items
    return .fixed last child.scope.start :: (child.transitions ++ following)

end

end Item

end ResumableFlow
