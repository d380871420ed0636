import ResumableFlow.State
import ResumableFlow.Text.Quoted

/-!
# Errors of a flow

What can go wrong when a tree is compiled, when a state is advanced and when an event is read. The
caller's own errors are carried as they are.
-/

namespace ResumableFlow

/-- The causes of failure. `ε` is the type of the errors that the caller's functions raise. -/
inductive FlowError (ε : Type) where
  /-- Two items of the sequence at the path `scope` have the same name. -/
  | duplicateName (scope name : String)
  /-- The text cannot name an item. -/
  | invalidName (name : String)
  /-- No transition leads away from any event of the state. -/
  | unhandledState (state : State)
  /-- The silent transitions of one call came back to this state. -/
  | staticCycle (state : State)
  /-- The call took this many transitions without reaching an end. -/
  | iterationLimit (limit : Nat)
  | invalidEvent (text : String)
  | callable (cause : ε)
  deriving DecidableEq, Repr

namespace FlowError

variable {ε : Type}

/-- The message for an error, with the caller's own errors put into words by `describe`. -/
def message (describe : ε → String) : FlowError ε → String
  | duplicateName scope name => "name " ++ name ++ " must be unique in " ++ scope
  | invalidName name => "invalid item name " ++ Text.quoted name
  | unhandledState state => "unhandled state " ++ state.text
  | staticCycle state => "static transition cycle at state " ++ state.text
  | iterationLimit limit =>
    "iteration limit of " ++ toString limit ++ " reached before yielding"
  | invalidEvent text => "invalid event: " ++ text
  | callable cause => describe cause

/-- Whether the error is about the tree itself, and so arises before anything runs. -/
def isCompilation : FlowError ε → Bool
  | duplicateName .. | invalidName _ => true
  | _ => false

/-- The caller's own error, if that is what it is. -/
def cause? : FlowError ε → Option ε
  | callable cause => some cause
  | _ => none

end FlowError

/-- Refuses a text that cannot name an item. -/
def validateName {ε : Type} (text : String) : Except (FlowError ε) Unit :=
  if isName text then .ok () else .error (.invalidName text)

end ResumableFlow
