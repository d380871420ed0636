import ResumableFlow.Description

/-!
# Flowcharts

A described table as a Mermaid flowchart. Each event is a node and each destination of a row an
edge, dotted when the row is exclusive. The rows are gone through once: a node is numbered and
declared where its id first occurs, and the edges are kept back until the last node is declared.
-/

namespace ResumableFlow
namespace Mermaid

/-! ## Lines -/

def node (number : Nat) : String := "n" ++ toString number

/-- A label without double quotes, which would end it. -/
def label (text : String) : String :=
  String.ofList (text.toList.flatMap fun c => if c = '"' then "#quot;".toList else [c])

def nodeLine (number : Nat) (id : String) : String :=
  "    " ++ node number ++ "[\"" ++ label id ++ "\"]\n"

def edgeLine (source target : Nat) (exclusive : Bool) (reason : String) : String :=
  "    " ++ node source ++ (if exclusive then " -.->|" else " -->|") ++ reason ++ "| " ++
    node target ++ "\n"

/-! ## Drawing -/

/-- A chart that is being drawn. -/
structure Drawing where
  /-- The ids that have a node, each with its number. -/
  numbers : List (String × Nat)
  /-- The text up to the last node that is declared. -/
  text : String
  /-- The lines of the edges, which are still to follow the text. -/
  edges : List String

namespace Drawing

def blank : Drawing := ⟨[], "flowchart TD\n", []⟩

/-- The number of the node for an id. An id that has no node is given the next number, and the node
is declared. -/
def number (drawing : Drawing) (id : String) : Nat × Drawing :=
  match drawing.numbers.lookup id with
  | some number => (number, drawing)
  | none =>
    let next := drawing.numbers.length
    (next, ⟨drawing.numbers ++ [(id, next)], drawing.text ++ nodeLine next id, drawing.edges⟩)

def addEdge (source : Nat) (exclusive : Bool) (drawing : Drawing) (destination : Destination) :
    Drawing :=
  let (target, drawing) := drawing.number destination.event.id
  { drawing with edges := drawing.edges ++ [edgeLine source target exclusive destination.reason] }

def addRow (drawing : Drawing) (row : Row) : Drawing :=
  let (source, drawing) := drawing.number row.source.id
  row.destinations.foldl (addEdge source row.exclusive) drawing

end Drawing

def render (rows : List Row) : String :=
  let drawing := rows.foldl Drawing.addRow .blank
  drawing.text ++ String.join drawing.edges

end Mermaid
end ResumableFlow
