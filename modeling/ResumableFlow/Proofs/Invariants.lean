import ResumableFlow.Proofs.Correspondences

/-!
# Invariants of contexts

What all functions of a tree keep, the calls of its flow keep (`Flow.Related.keeps_apply`). A tree
whose functions keep an invariant corresponds to itself under `Correspondence.keeps`, so what is
said here of compiled edges needs no induction of its own.
-/

namespace ResumableFlow

variable {σ ε : Type} {Inv : σ → Prop}

/-- What is computed leaves the invariant as it was. -/
def Keeps {α : Type} (Inv : σ → Prop) (run : σ → α × σ) : Prop :=
  ∀ context, Inv context → Inv (run context).2

namespace Keeps

variable {α β : Type}

theorem pure (a : α) : Keeps Inv fun context => (a, context) := fun _ holds => holds

theorem map {run : Callable σ ε α} (h : Keeps Inv run) (f : α → β) : Keeps Inv (run.map f) := by
  intro context holds
  have after := h context holds
  simp only [Callable.map]
  rcases ran : run context with ⟨cause | answer, next⟩ <;> rw [ran] at after <;> exact after

theorem guard {run : Callable σ ε α} {handler : Handler σ ε} (h : Keeps Inv run)
    (handles : ∀ cause, Keeps Inv (handler cause)) (fallback : α) :
    Keeps Inv (run.guard handler fallback) := by
  intro context holds
  have after := h context holds
  simp only [Callable.guard]
  rcases ran : run context with ⟨cause | answer, next⟩ <;> rw [ran] at after
  · have handled := handles cause next after
    simp only
    rcases decided : handler cause next with ⟨failure | _ | _, final⟩ <;>
      rw [decided] at handled <;> exact handled
  · exact after

end Keeps

/-- Functions that keep the invariant make edges that keep it, and correspond to themselves. -/
def Correspondence.keeps (Inv : σ → Prop) : Correspondence σ σ ε where
  callable run' run := run' = run ∧ Keeps Inv run
  transition transition' transition := transition' = transition ∧ Keeps Inv transition.take
  fixed _ _ := ⟨rfl, .pure _⟩
  chosen := by
    rintro α _ run ⟨rfl, keeps⟩ source options choose
    exact ⟨rfl, keeps.map choose⟩
  guarded := by
    rintro _ inner handler' handler ⟨rfl, keeps⟩ handles restart
    obtain rfl : handler' = handler := funext fun cause => (handles cause).1
    exact ⟨rfl, keeps.guard (fun cause => (handles cause).2) _⟩

namespace Flow.Related

variable {flow' flow : Flow σ ε}

theorem keeps_step (h : flow'.Related (Correspondence.keeps Inv).transition flow)
    (frontier : State) : Keeps Inv (flow.step frontier) := by
  intro context holds
  have found := h.lookup (fun same => by rw [same.1]) frontier
  unfold step
  by_cases done : flow.isCompleted frontier = true
  · rw [if_pos done]
    exact holds
  · rw [if_neg done]
    generalize flow'.table.lookup frontier = found', flow.table.lookup frontier = found₀ at found
    cases found with
    | none => exact holds
    | @some _ transition keeps =>
      have after := keeps.2 context holds
      simp only
      rcases taken : transition.take context with ⟨cause | events, next⟩ <;> rw [taken] at after
      · exact after
      · simp only
        cases transition.isExclusive <;> exact after

theorem keeps_walk (h : flow'.Related (Correspondence.keeps Inv).transition flow) (left : Nat) :
    ∀ (seen : List State) (frontier : State), Keeps Inv (flow.walk left seen frontier) := by
  induction left with
  | zero =>
    intro seen frontier context holds
    exact holds
  | succ left ih =>
    intro seen frontier context holds
    have after := h.keeps_step frontier context holds
    rcases stepped : flow.step frontier context with ⟨ending | next, between⟩ <;>
      rw [stepped] at after
    · rw [walk_ends stepped]
      exact after
    · by_cases repeated : next ∈ seen
      · rw [walk_repeats stepped repeated]
        exact after
      · rw [walk_passes stepped repeated]
        exact ih _ _ between after

/-- Calls keep what all functions of the flow keep. -/
theorem keeps_apply (h : flow'.Related (Correspondence.keeps Inv).transition flow)
    (state : State) : Keeps Inv (flow.apply state) :=
  h.keeps_walk _ _ _

end Flow.Related

end ResumableFlow
