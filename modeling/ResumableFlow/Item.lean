import ResumableFlow.Error
import ResumableFlow.Transition

/-!
# Items

A flow is written as a tree of items. The six kinds of the library cover activities, sequences,
gates, loops, retries and polls; a caller may add kinds of its own by saying how they compile.
-/

namespace ResumableFlow

/-- What an item compiles to: its scope, and its transitions together with
those of all items in it. -/
structure Compiled (σ ε : Type) where
  scope : Scope
  transitions : List (Transition σ ε)

/-- A tree of work over contexts of type `σ` and errors of type `ε`. -/
inductive Item (σ ε : Type) where
  /-- A single activity. -/
  | activity (name : String) (run : Callable σ ε Unit)
  /-- Items that run one after the other. -/
  | steps (name : String) (items : List (Item σ ε))
  /-- An item that runs only if a condition holds. -/
  | gate (name : String) (body : Item σ ε) (condition : Callable σ ε Bool)
  /-- An item that runs again until a condition holds after it. -/
  | loopUntil (name : String) (body : Item σ ε) (condition : Callable σ ε Bool)
  /-- An item that starts again whenever it fails and the handler agrees. It has no scope of its
  own. -/
  | retry (body : Item σ ε) (handler : Handler σ ε)
  /-- A wait that ends when a condition holds. -/
  | waitFor (name : String) (condition : Callable σ ε Bool)
  /-- An item of the caller, given by its name and by its compilation below an enclosing scope. -/
  | custom (name : String) (compile : Option Scope → Except (FlowError ε) (Compiled σ ε))

namespace Item

variable {σ ε : Type}

/-- The name of the item. That of a retry is the name of the item in it. -/
def name : Item σ ε → String
  | activity name _ => name
  | steps name _ => name
  | gate name _ _ => name
  | loopUntil name _ _ => name
  | retry body _ => body.name
  | waitFor name _ => name
  | custom name _ => name

mutual

/-- Whether the tree is built from the kinds of the library alone. -/
def isBuiltIn : Item σ ε → Bool
  | activity _ _ => true
  | steps _ items => areBuiltIn items
  | gate _ body _ => body.isBuiltIn
  | loopUntil _ body _ => body.isBuiltIn
  | retry body _ => body.isBuiltIn
  | waitFor _ _ => true
  | custom _ _ => false

/-- Whether all trees are built from the kinds of the library alone. -/
def areBuiltIn : List (Item σ ε) → Bool
  | [] => true
  | item :: items => item.isBuiltIn && areBuiltIn items

end

end Item

end ResumableFlow
