import ResumableFlow.Event.Parser
import ResumableFlow.Item.Compile
import ResumableFlow.Rehearsal.Script

/-!
# Sketched items

A sketch is an item of the caller that is written down edge by edge, with no promise that the edges
make sense together. Rehearsals use sketches to bring a flow into situations that the items of the
library avoid.
-/

namespace ResumableFlow
namespace Rehearsal

/-- The event that a text refers to within a scope. A dot in place of the path stands for the scope,
and a path may go on below the dot; any other text is an event id. -/
def resolve (scope : Scope) (reference : String) : Except (FlowError String) Event :=
  match splitAtColon reference.toList with
  | some (word, '.' :: below) =>
    match EventKind.ofWord? (String.ofList word) with
    | some kind =>
      if below = [] ∨ below.head? = some '/' then
        .ok ⟨kind, scope.path ++ String.ofList below⟩
      else Event.parse reference
    | none => Event.parse reference
  | _ => Event.parse reference

/-- How an edge finds its targets. -/
inductive EdgeKind where
  /-- A silent edge to the first target. -/
  | fixed
  /-- An exclusive edge that a script steers. -/
  | dynamic (script : Script)
  /-- An edge that a script steers, and that ends a call only if it is exclusive. -/
  | raw (exclusive : Bool) (script : Script)

/-- One edge of a sketch, with its events as references. -/
structure Edge where
  source : String
  targets : List String
  otherwise : List String
  kind : EdgeKind

/-- The transition for an edge. A fixed edge without a target has none. -/
def Edge.compile (edge : Edge) (scope : Scope) :
    Except (FlowError String) (List (Transition Stage String)) := do
  let source ← resolve scope edge.source
  let targets ← edge.targets.mapM (resolve scope)
  let otherwise ← edge.otherwise.mapM (resolve scope)
  match edge.kind with
  | .fixed => return (targets.take 1).map (.fixed source)
  | .dynamic script =>
    let options := targets.map (Destination.mk · "yes") ++ otherwise.map (Destination.mk · "no")
    return [.branch source options script.condition targets otherwise]
  | .raw exclusive script =>
    let options := (targets ++ otherwise).mapIdx fun i event =>
      Destination.mk event ("raw " ++ toString i)
    return [.chosen source exclusive options
      (script.condition.map fun holds => if holds then targets else otherwise)]

/-- An item written down edge by edge. -/
structure Sketch where
  name : String
  edges : List Edge
  children : List (Item Stage String) := []
  /-- Whether the name is examined. -/
  validated : Bool := true
  scopeName : String
  /-- Whether the scope is a root wherever the item stands. -/
  atRoot : Bool := false

namespace Sketch

def compile (sketch : Sketch) (parent : Option Scope) :
    Except (FlowError String) (Compiled Stage String) := do
  if sketch.validated then validateName sketch.name
  let scope := if sketch.atRoot then .root sketch.scopeName else .nest parent sketch.scopeName
  let edges ← sketch.edges.mapM (·.compile scope)
  let children ← sketch.children.mapM (·.compile (some scope))
  return ⟨scope, edges.flatten ++ children.flatMap (·.transitions)⟩

/-- The sketch as an item. -/
def item (sketch : Sketch) : Item Stage String := .custom sketch.name sketch.compile

end Sketch

end Rehearsal
end ResumableFlow
