import Mathlib.Logic.Relation
import ResumableFlow.Proofs.Shapes

/-!
# Rows and their graph

The rows of a compiled tree are known before anything runs: trees of one shape compile to the same
rows, whatever their functions do (`Item.SameShape.compile_rows`). Read as edges between events,
rows make a graph. `Leads` is its edge relation, restricted to the destinations that a path may
take.
-/

namespace ResumableFlow

variable {σ' σ ε : Type}

/-! ## Trees of one shape -/

namespace Item

mutual

/-- Between trees of the library's own kinds nothing is asked but of their functions. -/
theorem Corresponds.of_callable {C C' : Correspondence σ' σ ε}
    (weaker : ∀ {α : Type} {run' : Callable σ' ε α} {run : Callable σ ε α},
      C.callable run' run → C'.callable run' run) : ∀ {item' : Item σ' ε} {item : Item σ ε},
    item'.Corresponds C item → item.isBuiltIn = true → item'.Corresponds C' item
  | _, .activity _ _, .activity name related, _ => .activity name (weaker related)
  | _, .steps _ _, .steps name related, builtIn =>
    .steps name (correspond_of_callable weaker related builtIn)
  | _, .gate _ _ _, .gate name inner related, builtIn =>
    .gate name (inner.of_callable weaker builtIn) (weaker related)
  | _, .loopUntil _ _ _, .loopUntil name inner related, builtIn =>
    .loopUntil name (inner.of_callable weaker builtIn) (weaker related)
  | _, .retry _ _, .retry inner related, builtIn =>
    .retry (inner.of_callable weaker builtIn) fun cause => weaker (related cause)
  | _, .waitFor _ _, .waitFor name related, _ => .waitFor name (weaker related)

theorem Corresponds.correspond_of_callable {C C' : Correspondence σ' σ ε}
    (weaker : ∀ {α : Type} {run' : Callable σ' ε α} {run : Callable σ ε α},
      C.callable run' run → C'.callable run' run) :
    ∀ {items' : List (Item σ' ε)} {items : List (Item σ ε)},
    List.Forall₂ (Corresponds C) items' items → areBuiltIn items = true →
    List.Forall₂ (Corresponds C') items' items
  | _, [], .nil, _ => .nil
  | _, _ :: _, .cons head rest, builtIn => by
    rw [areBuiltIn, Bool.and_eq_true] at builtIn
    exact .cons (head.of_callable weaker builtIn.1)
      (correspond_of_callable weaker rest builtIn.2)

end

mutual

/-- A tree of the library's own kinds has its own shape. -/
theorem SameShape.refl : ∀ (item : Item σ ε), item.isBuiltIn = true → item.SameShape item
  | activity name _, _ => .activity name trivial
  | steps name items, builtIn => .steps name (SameShape.refl_all items builtIn)
  | gate name body _, builtIn => .gate name (SameShape.refl body builtIn) trivial
  | loopUntil name body _, builtIn => .loopUntil name (SameShape.refl body builtIn) trivial
  | retry body _, builtIn => .retry (SameShape.refl body builtIn) fun _ => trivial
  | waitFor name _, _ => .waitFor name trivial

theorem SameShape.refl_all : ∀ (items : List (Item σ ε)), areBuiltIn items = true →
    List.Forall₂ (Corresponds .shape) items items
  | [], _ => .nil
  | item :: items, builtIn => by
    rw [areBuiltIn, Bool.and_eq_true] at builtIn
    exact .cons (SameShape.refl item builtIn.1) (SameShape.refl_all items builtIn.2)

end

end Item

/-! ## Their rows -/

theorem Transition.row_guarded (inner : Transition σ ε) (restart : Event) (handler : Handler σ ε) :
    (guarded inner restart handler).row =
      ⟨inner.row.source, inner.row.exclusive, inner.row.destinations ++ [⟨restart, "retry"⟩]⟩ := rfl

/-- Functions make edges with one and the same row, whatever they do. -/
def Correspondence.rows : Correspondence σ σ ε where
  callable _ _ := True
  transition a b := a.row = b.row
  fixed _ _ := rfl
  chosen _ _ _ _ := rfl
  guarded same _ restart := by rw [Transition.row_guarded, Transition.row_guarded, same]

namespace Item.SameShape

variable {item other : Item σ ε} {parent : Option Scope} {compiled : Compiled σ ε}

/-- A tree of the same shape compiles, too, to the same scope and the same rows. -/
theorem compile_rows (h : item.SameShape other) (builtIn : item.isBuiltIn = true)
    (compiles : item.compile parent = .ok compiled) : ∃ compiled',
      other.compile parent = .ok compiled' ∧ compiled'.scope = compiled.scope ∧
        compiled'.transitions.map Transition.row = compiled.transitions.map Transition.row := by
  have corresponds : other.Corresponds .rows item := h.of_callable (fun _ => trivial) builtIn
  obtain ⟨compiled', compiles', scope, edges⟩ := corresponds.compile compiles
  refine ⟨compiled', compiles', scope, ?_⟩
  rw [← List.forall₂_eq_eq_eq, List.forall₂_map_left_iff, List.forall₂_map_right_iff]
  exact edges

end Item.SameShape

/-! ## The graph of rows -/

/-- One of the rows leads from the first event to the second one, to a destination of the wanted
kind. -/
def Leads (wanted : Destination → Prop) (rows : List Row) (source target : Event) : Prop :=
  ∃ row ∈ rows, row.source = source ∧
    ∃ destination ∈ row.destinations, wanted destination ∧ destination.event = target

end ResumableFlow
