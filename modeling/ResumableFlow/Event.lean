import ResumableFlow.Scope

/-!
# Events

An event is a point of a flow: the start or the completion of a scope. Its id, the kind and the path
with a colon between them, is what a table is keyed by and what a caller stores.
-/

namespace ResumableFlow

/-- What happens to a scope. -/
inductive EventKind where
  | start
  | completed
  deriving DecidableEq, Repr

/-- The word for the kind in event ids. -/
def EventKind.word : EventKind → String
  | start => "start"
  | completed => "completed"

/-- The kind that a word names. -/
def EventKind.ofWord? (word : String) : Option EventKind :=
  if word = "start" then some start
  else if word = "completed" then some completed
  else none

theorem EventKind.ofWord?_word (kind : EventKind) : ofWord? kind.word = some kind := by
  cases kind <;> rfl

/-- The start or the completion of the scope with the path `scope`. -/
structure Event where
  kind : EventKind
  scope : String
  deriving DecidableEq, Repr

def Event.id (event : Event) : String := event.kind.word ++ ":" ++ event.scope

/-- The id tells the kind and the path, whatever the path holds. -/
theorem Event.id_injective {a b : Event} (h : a.id = b.id) : a = b := by
  obtain ⟨kind, scope⟩ := a
  obtain ⟨kind', scope'⟩ := b
  have chars := congrArg String.toList h
  simp only [id, String.toList_append] at chars
  cases kind <;> cases kind' <;>
    simp [EventKind.word, String.toList_inj] at chars ⊢ <;> exact chars

theorem Event.id_eq_iff {a b : Event} : a.id = b.id ↔ a = b :=
  ⟨id_injective, congrArg id⟩

def Scope.start (scope : Scope) : Event := ⟨.start, scope.path⟩

def Scope.completed (scope : Scope) : Event := ⟨.completed, scope.path⟩

@[simp] theorem Scope.start_scope (scope : Scope) : scope.start.scope = scope.path := rfl

@[simp] theorem Scope.completed_scope (scope : Scope) : scope.completed.scope = scope.path := rfl

theorem Scope.start_ne_completed (a b : Scope) : a.start ≠ b.completed := by
  intro h
  exact EventKind.noConfusion (congrArg Event.kind h)

end ResumableFlow
