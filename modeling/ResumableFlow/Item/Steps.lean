import ResumableFlow.Item

/-!
# Building sequences

A sequence is written by adding one step after the other and naming the result. The bodies of gates
and loops become sequences named `case` and `loop`; a retry has no scope of its own, so its body
carries the name given to the retry.
-/

namespace ResumableFlow

/-- The steps of a sequence, in order. -/
structure Steps (σ ε : Type) where
  items : List (Item σ ε)

namespace Steps

variable {σ ε : Type}

def empty : Steps σ ε := ⟨[]⟩

def length (steps : Steps σ ε) : Nat := steps.items.length

def isEmpty (steps : Steps σ ε) : Bool := steps.items.isEmpty

/-- Add an item at the end. -/
def item (steps : Steps σ ε) (item : Item σ ε) : Steps σ ε := ⟨steps.items ++ [item]⟩

/-- Name the sequence. -/
def build (steps : Steps σ ε) (name : String) : Item σ ε := .steps name steps.items

/-- Add an activity. -/
def step (steps : Steps σ ε) (name : String) (run : Callable σ ε Unit) : Steps σ ε :=
  steps.item (.activity name run)

/-- Add a wait. -/
def waitFor (steps : Steps σ ε) (name : String) (condition : Callable σ ε Bool) : Steps σ ε :=
  steps.item (.waitFor name condition)

/-- Add a sequence within the sequence. -/
def steps (steps : Steps σ ε) (name : String) (body : Steps σ ε) : Steps σ ε :=
  steps.item (body.build name)

/-- Add a sequence that starts again when it fails and the handler agrees. -/
def retry (steps : Steps σ ε) (name : String) (handler : Handler σ ε) (body : Steps σ ε) :
    Steps σ ε :=
  steps.item (.retry (body.build name) handler)

/-- Add a body that runs again until the condition holds. -/
def loopUntil (steps : Steps σ ε) (name : String) (condition : Callable σ ε Bool)
    (body : Steps σ ε) : Steps σ ε :=
  steps.item (.loopUntil name (body.build "loop") condition)

/-- Add a body that runs only if the condition holds. -/
def gate (steps : Steps σ ε) (name : String) (condition : Callable σ ε Bool) (body : Steps σ ε) :
    Steps σ ε :=
  steps.item (.gate name (body.build "case") condition)

end Steps

end ResumableFlow
