import ResumableFlow.Description
import ResumableFlow.Event.Parser
import ResumableFlow.Json.Parser
import ResumableFlow.Json.Printer

/-!
# Stored forms

How events, states and rows are written as JSON values and read back. An event is stored as its id,
a state as the array of its texts, a row and a destination as records.
-/

namespace ResumableFlow

namespace EventKind

def toJson (kind : EventKind) : Json := .str kind.word

/-- A kind is read from its word, or from an object with the word as its one name and no value. -/
def ofJson? : Json → Option EventKind
  | .str word => ofWord? word
  | .obj [(word, .null)] => ofWord? word
  | _ => none

end EventKind

namespace Event

def toJson (event : Event) : Json := .str event.id

def ofJson? (value : Json) : Option Event := value.text?.bind ofId?

end Event

namespace State

def toJson (state : State) : Json := .arr (state.events.map .str)

def ofJson? (value : Json) : Option State := (value.list? Json.text?).map State.mk

end State

namespace Destination

def toJson (destination : Destination) : Json :=
  .obj [("event", destination.event.toJson), ("reason", .str destination.reason)]

def ofJson? (value : Json) : Option Destination := do
  match ← value.fields? ["event", "reason"] with
  | [event, reason] =>
    return ⟨← Json.required Event.ofJson? event, ← Json.required Json.text? reason⟩
  | _ => none

end Destination

namespace Row

def toJson (row : Row) : Json :=
  .obj [("source", row.source.toJson), ("exclusive", .bool row.exclusive),
    ("destinations", .arr (row.destinations.map Destination.toJson))]

def ofJson? (value : Json) : Option Row := do
  match ← value.fields? ["source", "exclusive", "destinations"] with
  | [source, exclusive, destinations] =>
    return ⟨← Json.required Event.ofJson? source, ← Json.required Json.bool? exclusive,
      ← Json.required (Json.list? Destination.ofJson?) destinations⟩
  | _ => none

end Row

end ResumableFlow
