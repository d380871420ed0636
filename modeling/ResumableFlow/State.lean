import ResumableFlow.Event

/-!
# States

The state of an instance is the list of event ids it waits at. The empty state is that of an
instance that has not started. A state may hold texts that are no event ids: it is kept and compared
as text.
-/

namespace ResumableFlow

/-- The event ids that an instance waits at, in order. -/
structure State where
  events : List String
  deriving DecidableEq, Repr

namespace State

/-- The state of an instance that has not started. -/
def empty : State := ⟨[]⟩

def isEmpty (state : State) : Bool := state.events.isEmpty

def ofEvents (events : List Event) : State := ⟨events.map Event.id⟩

def contains (state : State) (event : Event) : Bool := state.events.contains event.id

/-- The ids between brackets, for messages. -/
def text (state : State) : String := "[" ++ ", ".intercalate state.events ++ "]"

@[simp] theorem events_ofEvents (events : List Event) :
    (ofEvents events).events = events.map Event.id := rfl

theorem empty_ne_ofEvents_cons (event : Event) (events : List Event) :
    empty ≠ ofEvents (event :: events) := by
  intro h
  cases congrArg (fun state => state.events.length) h

theorem ofEvents_singleton_inj {a b : Event} : ofEvents [a] = ofEvents [b] ↔ a = b := by
  constructor
  · intro h
    have ids : [a.id] = [b.id] := congrArg State.events h
    exact Event.id_injective (List.head_eq_of_cons_eq ids)
  · intro h
    rw [h]

/-- A state waits at an event just if it was made with it. -/
theorem contains_ofEvents {events : List Event} {event : Event} :
    (ofEvents events).contains event = true ↔ event ∈ events := by
  rw [contains, List.contains_iff_mem, events_ofEvents, List.mem_map]
  constructor
  · rintro ⟨other, mem, same⟩
    rwa [← Event.id_injective same]
  · exact fun mem => ⟨event, mem, rfl⟩

theorem contains_singleton {a b : Event} : (ofEvents [a]).contains b = true ↔ b = a := by
  rw [contains_ofEvents, List.mem_singleton]

end State

end ResumableFlow
