import ResumableFlow.Description

/-!
# Transitions

The edges of a compiled flow, over the functions that a caller supplies. A caller's function sees a
context and may change it, and its changes stay when it fails.

A transition is silent or exclusive. Silent ones are passed within one call; an exclusive one ends
the call it is taken in.
-/

namespace ResumableFlow

variable {σ ε : Type}

/-! ## Functions of the caller -/

/-- A function of the caller on a context of type `σ`: it answers or fails with an `ε`, and either
way leaves a context. -/
abbrev Callable (σ ε α : Type) := σ → Except ε α × σ

/-- A function that decides whether the work that failed with the given error starts again. -/
abbrev Handler (σ ε : Type) := ε → Callable σ ε Bool

def Callable.map {α β : Type} (f : α → β) (run : Callable σ ε α) : Callable σ ε β := fun context =>
  match run context with
  | (.ok answer, context) => (.ok (f answer), context)
  | (.error cause, context) => (.error cause, context)

/-- Run the callable; when it fails, let the handler choose between `fallback` and failure. The
handler that refuses keeps the error, the handler that fails replaces it. -/
def Callable.guard {α : Type} (run : Callable σ ε α) (handler : Handler σ ε) (fallback : α) :
    Callable σ ε α := fun context =>
  match run context with
  | (.ok answer, context) => (.ok answer, context)
  | (.error cause, context) =>
    match handler cause context with
    | (.ok true, context) => (.ok fallback, context)
    | (.ok false, context) => (.error cause, context)
    | (.error failure, context) => (.error failure, context)

/-! ## Transitions -/

/-- An edge of a compiled flow. -/
inductive Transition (σ ε : Type) where
  /-- The silent edge with one fixed target. -/
  | fixed (source target : Event)
  /-- An edge whose targets the caller's function chooses. The options say what it may choose; they
  do not restrict it. -/
  | chosen (source : Event) (exclusive : Bool) (options : List Destination)
      (choose : Callable σ ε (List Event))
  /-- An edge under a handler that may lead back to `restart` when the edge fails. -/
  | guarded (inner : Transition σ ε) (restart : Event) (handler : Handler σ ε)

namespace Transition

/-- The exclusive edge that a condition steers: to one list of events when it holds and to another
one when it does not. -/
def branch (source : Event) (options : List Destination) (condition : Callable σ ε Bool)
    (whenTrue whenFalse : List Event) : Transition σ ε :=
  chosen source true options (condition.map fun holds => if holds then whenTrue else whenFalse)

def source : Transition σ ε → Event
  | fixed source _ => source
  | chosen source _ _ _ => source
  | guarded inner _ _ => inner.source

/-- Whether taking the transition ends the call. -/
def isExclusive : Transition σ ε → Bool
  | fixed _ _ => false
  | chosen _ exclusive _ _ => exclusive
  | guarded inner _ _ => inner.isExclusive

/-- Each event the transition says it may lead to, with the reason. -/
def destinations : Transition σ ε → List Destination
  | fixed _ target => [⟨target, "static"⟩]
  | chosen _ _ options _ => options
  | guarded inner restart _ => inner.destinations ++ [⟨restart, "retry"⟩]

/-- Take the transition: the events it leads to, or the error of a function of the caller. -/
def take : Transition σ ε → Callable σ ε (List Event)
  | fixed _ target => fun context => (.ok [target], context)
  | chosen _ _ _ choose => choose
  | guarded inner restart handler => inner.take.guard handler [restart]

def row (transition : Transition σ ε) : Row :=
  ⟨transition.source, transition.isExclusive, transition.destinations⟩

@[simp] theorem take_fixed (source target : Event) (context : σ) :
    (fixed (ε := ε) source target).take context = (.ok [target], context) := rfl

@[simp] theorem source_guarded (inner : Transition σ ε) (restart : Event) (handler : Handler σ ε) :
    (guarded inner restart handler).source = inner.source := rfl

@[simp] theorem isExclusive_guarded (inner : Transition σ ε) (restart : Event)
    (handler : Handler σ ε) :
    (guarded inner restart handler).isExclusive = inner.isExclusive := rfl

end Transition

end ResumableFlow
