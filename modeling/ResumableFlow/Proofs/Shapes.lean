import ResumableFlow.Proofs.Stretches

/-!
# Trees of one shape

Two trees have the same shape if they differ in the functions of their items and in nothing else.
They compile to lists that agree edge by edge in all that is known before anything runs, so the
calls of their flows halt at the same frontiers (`Flow.Related.haltOf_eq`).
-/

namespace ResumableFlow

variable {σ ε : Type}

/-- The edges agree in all that is known before anything runs. -/
structure Transition.SameEdge (a b : Transition σ ε) : Prop where
  source : a.source = b.source
  fixed : a.target? = b.target?
  exclusive : a.isExclusive = b.isExclusive

/-- Functions make edges that agree, whatever they do. -/
def Correspondence.shape : Correspondence σ σ ε where
  callable _ _ := True
  transition := Transition.SameEdge
  fixed _ _ := ⟨rfl, rfl, rfl⟩
  chosen _ _ _ _ := ⟨rfl, rfl, rfl⟩
  guarded same _ _ := ⟨same.source, same.fixed, same.exclusive⟩

/-- The other tree is the same but for the functions in it. An item of the caller may compile to
other functions, too. -/
def Item.SameShape (root other : Item σ ε) : Prop := other.Corresponds .shape root

theorem Flow.Related.successor_eq {flow' flow : Flow σ ε}
    (h : flow'.Related Transition.SameEdge flow) (frontier : State) :
    flow'.successor frontier = flow.successor frontier := by
  have found := h.lookup Transition.SameEdge.source frontier
  rw [successor, successor, h.isCompleted_eq]
  generalize flow'.table.lookup frontier = found', flow.table.lookup frontier = found₀ at found
  cases found with
  | none => rfl
  | some same => rw [Option.bind_some, Option.bind_some, same.fixed]

/-- Flows with the same completion and the same silent edges halt alike. -/
theorem Flow.halt_congr {σ' ε' : Type} {a : Flow σ ε} {b : Flow σ' ε'}
    (completes : ∀ frontier, b.isCompleted frontier = a.isCompleted frontier)
    (follows : ∀ frontier, b.successor frontier = a.successor frontier) (left : Nat) :
    ∀ (seen : List State) (frontier : State),
      b.halt left seen frontier = a.halt left seen frontier := by
  induction left with
  | zero =>
    intro seen frontier
    rw [halt, halt, completes]
  | succ left ih =>
    intro seen frontier
    have same := follows frontier
    rcases followed : a.successor frontier with _ | next <;> rw [followed] at same
    · rw [halt_stops followed, halt_stops same]
    · by_cases repeated : next ∈ seen
      · rw [halt_repeats followed repeated, halt_repeats same repeated]
      · rw [halt_passes followed repeated, halt_passes same repeated, ih]

theorem Flow.Related.haltOf_eq {flow' flow : Flow σ ε}
    (h : flow'.Related Transition.SameEdge flow) (state : State) :
    flow'.haltOf state = flow.haltOf state := by
  rw [haltOf, haltOf, h.config, h.entry_eq]
  exact halt_congr h.isCompleted_eq h.successor_eq _ _ _

end ResumableFlow
