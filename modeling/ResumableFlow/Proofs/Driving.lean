import ResumableFlow.Proofs.Calls
import ResumableFlow.Proofs.Moves

/-!
# Driving a regular flow

Each call of a regular flow makes moves through its table, and at least one unless the flow is
completed (`Flow.Regular.call_spec`). By induction on the calls, a drive follows the table
(`Flow.Regular.progress_follows`). Where a call was cut, at an exclusive transition or at the
limit, leaves no trace in that: this is where the policy for the limit matters, since a call that
fails at the limit forgets the moves it has made.
-/

namespace ResumableFlow

variable {σ ε : Type}

namespace Flow

/-- What a call answers that goes on from the event and may take up to `left` transitions: the
place that its moves lead to, or the error of the function that fails there. -/
inductive AnswerSpec (flow : Flow σ ε) (left : Nat) (event : Event) (context : σ) :
    CallResult ε × σ → Prop
  | ok {count : Nat} {target : Event} {after : σ}
    (reaches : Reaches flow.table.transitions count (event, context) (target, after))
    (place : flow.IsPlace target) (moves : event = flow.completed ∨ left = 0 ∨ 0 < count) :
    AnswerSpec flow left event context (.ok (.ofEvents [target]), after)
  | error {count : Nat} {last : Event × σ} {cause : ε} {after : σ}
    (reaches : Reaches flow.table.transitions count (event, context) last)
    (ends : Ends flow.table.transitions flow.completed last (.failed cause, after)) :
    AnswerSpec flow left event context (.error (.callable cause), after)

theorem AnswerSpec.step {flow : Flow σ ε} {left : Nat} {event target : Event} {context between : σ}
    {transition : Transition σ ε} {answer : CallResult ε × σ}
    (mem : transition ∈ flow.table.transitions) (source : transition.source = event)
    (taken : transition.take context = (.ok [target], between))
    (h : flow.AnswerSpec left target between answer) :
    flow.AnswerSpec (left + 1) event context answer := by
  cases h with
  | ok reaches place _ =>
    exact .ok (.step mem source taken reaches) place (Or.inr (Or.inr (Nat.succ_pos _)))
  | error reaches ends => exact .error (.step mem source taken reaches) ends

namespace Regular

variable {flow : Flow σ ε}

theorem walk_spec (h : flow.Regular) (policy : flow.config.onLimit = .yield) (left : Nat) :
    ∀ (seen : List State) (event : Event) (context : σ), flow.IsPlace event →
    (∀ next, (flow.walk left seen (.ofEvents [event]) context).1 ≠ .cyclic next) →
    flow.AnswerSpec left event context
      ((flow.walk left seen (.ofEvents [event]) context).1.answer flow.config,
        (flow.walk left seen (.ofEvents [event]) context).2) := by
  induction left with
  | zero =>
    intro seen event context place _
    have answered : (flow.walk 0 seen (.ofEvents [event]) context).1.answer flow.config =
        .ok (.ofEvents [event]) := by
      rw [walk]
      by_cases done : flow.isCompleted (.ofEvents [event]) = true
      · simp only [if_pos done, Ending.answer]
      · simp only [if_neg done, Ending.answer, policy]
    rw [answered]
    exact .ok (.refl _) place (Or.inr (Or.inl rfl))
  | succ left ih =>
    intro seen event context place acyclic
    have spec := h.step_spec (.ofEvents [event]) context
    generalize stepped : flow.step (.ofEvents [event]) context = taken at spec
    cases spec with
    | completed done =>
      rw [walk_ends stepped]
      exact .ok (.refl _) place (Or.inl (State.ofEvents_singleton_inj.mp done))
    | unhandled pending passed =>
      have waits : flow.WaitsAtPlace (.ofEvents [event]) := ⟨event, place, rfl⟩
      exact absurd (waits.completed_of_passesOver passed) pending
    | failed _ found fails =>
      obtain ⟨mem, source⟩ := h.source_of_lookup found
      rw [walk_ends stepped]
      exact .error (.refl _) (.failed mem source fails)
    | exclusive _ found _ taken target =>
      obtain ⟨mem, source⟩ := h.source_of_lookup found
      rw [walk_ends stepped]
      exact .ok (.single mem source taken) target (Or.inr (Or.inr Nat.one_pos))
    | @silent _ target _ found fixed placeTarget =>
      obtain ⟨mem, source⟩ := h.source_of_lookup found
      by_cases repeated : State.ofEvents [target] ∈ seen
      · rw [walk_repeats stepped repeated] at acyclic
        exact absurd rfl (acyclic _)
      · rw [walk_passes stepped repeated] at acyclic ⊢
        exact .step mem source (Transition.take_of_target? fixed context)
          (ih _ target context placeTarget acyclic)

theorem call_spec (h : flow.Regular) (policy : flow.config.onLimit = .yield) {state : State}
    {event : Event} (entered : flow.entry state = .ofEvents [event]) (place : flow.IsPlace event)
    (context : σ) : flow.AnswerSpec flow.config.bound event context
      ((flow.call ⟨state, context⟩).1, (flow.call ⟨state, context⟩).2.context) := by
  have acyclic : ∀ next, (flow.ending state context).1 ≠ .cyclic next := by
    intro next cyclic
    have sound := h.ending_sound state context
    rw [cyclic] at sound
    exact sound
  rw [ending, entered] at acyclic
  have spec := h.walk_spec policy flow.config.bound _ event context place acyclic
  rw [← entered] at spec
  have called : ((flow.call ⟨state, context⟩).1, (flow.call ⟨state, context⟩).2.context) =
      ((flow.ending state context).1.answer flow.config, (flow.ending state context).2) := by
    simp only [call, apply]
    rcases (flow.ending state context).1.answer flow.config with error | answer <;> rfl
  rw [called]
  exact spec

/-- A drive makes at least as many moves as calls, unless it ends. -/
theorem progress_follows (h : flow.Regular) (policy : flow.config.onLimit = .yield) (calls : Nat) :
    ∀ (state : State) (event : Event) (context : σ), flow.entry state = .ofEvents [event] →
    flow.IsPlace event → (flow.isCompleted state = true ↔ event = flow.completed) →
    ∃ result, Follows flow.table.transitions flow.completed calls (event, context) result ∧
      flow.progress calls state context = Prod.map (Progress.map .callable) id result := by
  induction calls with
  | zero =>
    intro state event context entered place agrees
    by_cases done : flow.isCompleted state = true
    · refine ⟨(.completed, context), ?_, flow.progress_of_isCompleted 0 done context⟩
      rw [agrees.mp done]
      exact .ended (.refl _) .completed
    · exact ⟨(.paused, context), .paused (.refl _) (Nat.zero_le 0), flow.progress_zero done context⟩
  | succ calls ih =>
    intro state event context entered place agrees
    by_cases done : flow.isCompleted state = true
    · refine ⟨(.completed, context), ?_, flow.progress_of_isCompleted _ done context⟩
      rw [agrees.mp done]
      exact .ended (.refl _) .completed
    · have spec := h.call_spec policy entered place context
      have kept := flow.call_of_ok state context
      rcases called : flow.call ⟨state, context⟩ with ⟨answer, next⟩
      rw [called] at spec kept
      cases spec with
      | @ok count target _ reaches placeTarget moves =>
        -- The call made a move, which makes up for the one call less.
        have moved : 0 < count := by
          rcases moves with completed | none | moved
          · exact absurd (agrees.mpr completed) done
          · exact absurd none flow.config.bound_pos.ne'
          · exact moved
        have leaves : next.state = .ofEvents [target] := kept _ rfl
        have agreesNext : flow.isCompleted next.state = true ↔ target = flow.completed := by
          rw [leaves, flow.isCompleted_singleton]
        have enteredNext : flow.entry next.state = .ofEvents [target] := by
          rw [leaves]
          rfl
        obtain ⟨result, follows, progressed⟩ :=
          ih next.state target next.context enteredNext placeTarget agreesNext
        refine ⟨result, (follows.after reaches).mono (by omega), ?_⟩
        rw [flow.progress_of_ok calls done called, progressed]
      | @error _ _ cause _ reaches ends =>
        exact ⟨(.failed cause, next.context), .ended reaches ends,
          flow.progress_of_error calls done called⟩

theorem progress_empty_follows (h : flow.Regular) (policy : flow.config.onLimit = .yield)
    (calls : Nat) (context : σ) :
    ∃ result, Follows flow.table.transitions flow.completed calls (flow.start, context) result ∧
      flow.progress calls .empty context = Prod.map (Progress.map .callable) id result := by
  apply h.progress_follows policy calls .empty flow.start context rfl (Or.inl h.start_mem)
  constructor
  · intro done
    exact absurd done flow.not_isCompleted_empty
  · intro eq
    exact absurd (eq ▸ h.start_mem) h.completed_not_mem

end Regular

end Flow

end ResumableFlow
