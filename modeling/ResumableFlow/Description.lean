import ResumableFlow.Event

/-!
# Descriptions of transitions

What a transition is to a reader who does not run it: where it leads from, whether it ends a call,
and each event it may lead to together with the reason.
-/

namespace ResumableFlow

/-- An event that a transition may lead to, and why it would. -/
structure Destination where
  event : Event
  reason : String
  deriving DecidableEq, Repr

structure Row where
  source : Event
  /-- Whether taking the transition ends the call. -/
  exclusive : Bool
  destinations : List Destination
  deriving DecidableEq, Repr

end ResumableFlow
