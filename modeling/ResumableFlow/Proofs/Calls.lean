import ResumableFlow.Deploy.Flow
import ResumableFlow.Proofs.Places
import ResumableFlow.Proofs.Recording

/-!
# Calls of a regular flow

Every flow that a tree of the library's own kinds compiles to keeps to `Flow.CallContract`,
whatever state and context a call is given: it finds no cycle, leaves an instance at one place,
and complains only about a state that was not its own.

The walk of a call is followed by two inductions on the transitions that are left to it. The first
one (`walk_sound`) carries that the seen frontiers have at least as much remaining as the current
one, so that none of them comes back. The second one (`walk_not_limited`) carries that no more
remains than is left.
-/

namespace ResumableFlow

variable {σ ε : Type}

/-! ## The contract -/

namespace Flow

/-- The states that calls lead to from that of an instance which has not started. Each call may be
made on any context, and a call that fails keeps the state. -/
inductive Reachable (flow : Flow σ ε) : State → Prop
  | empty : Reachable flow .empty
  | call {state : State} (context : σ) (reachable : Reachable flow state) :
    Reachable flow (flow.call ⟨state, context⟩).2.state

/-- The state waits at the source of no transition. -/
def PassesOver (flow : Flow σ ε) (state : State) : Prop :=
  ∀ event ∈ sourcesOf flow.table.transitions, state.contains event = false

/-- What callers can rely on. -/
structure CallContract (flow : Flow σ ε) : Prop where
  /-- Calls find no silent cycle. -/
  acyclic : ∀ state context frontier,
    (flow.apply state context).1 ≠ .error (.staticCycle frontier)
  /-- Calls refuse just the states that are neither empty nor completed and wait at no source, and
  they name the state that they were given. -/
  unhandled_iff : ∀ state context frontier,
    (flow.apply state context).1 = .error (.unhandledState frontier) ↔
      frontier = state ∧ state ≠ .empty ∧ state ≠ .ofEvents [flow.completed] ∧ flow.PassesOver state
  /-- Calls answer with a single place. -/
  waits_of_ok : ∀ state context next,
    (flow.apply state context).1 = .ok next → flow.WaitsAtPlace next
  /-- Instances are at a place once they have started, and none of their states is refused. -/
  reachable : ∀ state, flow.Reachable state → (state = .empty ∨ flow.WaitsAtPlace state) ∧
    ∀ context frontier, (flow.apply state context).1 ≠ .error (.unhandledState frontier)
  /-- Calls at completion change nothing. -/
  completed_stays : ∀ times context,
    flow.calls times ⟨.ofEvents [flow.completed], context⟩ = List.replicate times
      (.ok (.ofEvents [flow.completed]), ⟨.ofEvents [flow.completed], context⟩)
  /-- Calls at completion invoke nothing. -/
  completed_silent : ∀ times context journal,
    flow.recorded.calls times ⟨.ofEvents [flow.completed], (context, journal)⟩ =
      List.replicate times
        (.ok (.ofEvents [flow.completed]), ⟨.ofEvents [flow.completed], (context, journal)⟩)
  /-- Calls that may take as many transitions as there are do not stop at the limit. -/
  unlimited : flow.table.length ≤ flow.config.maxIterations → ∀ state context,
    (∀ frontier, (flow.ending state context).1 ≠ .limited frontier) ∧
      ∀ limit, (flow.apply state context).1 ≠ .error (.iterationLimit limit)

/-! ## Endings -/

end Flow

/-- What the ending of a call says when the call began at the frontier `entered`. -/
def Ending.Sound (flow : Flow σ ε) (entered : State) : Ending ε → Prop
  | completed frontier => frontier = .ofEvents [flow.completed]
  | taken next => flow.WaitsAtPlace next
  | failed _ => True
  | unhandled frontier =>
    frontier = entered ∧ entered ≠ .ofEvents [flow.completed] ∧ flow.PassesOver entered
  | cyclic _ => False
  | limited frontier => flow.WaitsAtPlace frontier

namespace Flow

theorem WaitsAtPlace.completed_of_passesOver {flow : Flow σ ε} {state : State}
    (waits : flow.WaitsAtPlace state) (passed : flow.PassesOver state) :
    state = .ofEvents [flow.completed] := by
  obtain ⟨event, isSource | rfl, rfl⟩ := waits
  · have contained := passed event isSource
    rw [State.contains_singleton.mpr rfl] at contained
    cases contained
  · rfl

theorem isPlace_completed (flow : Flow σ ε) : flow.IsPlace flow.completed := Or.inr rfl

end Flow

/-- What is reached from a place is sound from anywhere, since no place is refused. -/
theorem Ending.Sound.of_waits {flow : Flow σ ε} {place entered : State} {ending : Ending ε}
    (waits : flow.WaitsAtPlace place) (h : ending.Sound flow place) :
    ending.Sound flow entered := by
  cases ending with
  | unhandled frontier =>
    obtain ⟨_, pending, passed⟩ := h
    exact absurd (waits.completed_of_passesOver passed) pending
  | completed _ => exact h
  | taken _ => exact h
  | failed _ => exact h
  | cyclic _ => exact h
  | limited _ => exact h

namespace Flow

namespace Regular

variable {flow : Flow σ ε}

theorem entry_waits (h : flow.Regular) : flow.WaitsAtPlace (flow.entry .empty) :=
  ⟨flow.start, Or.inl h.start_mem, rfl⟩

theorem walk_sound (h : flow.Regular) (left : Nat) : ∀ (seen : List State) (frontier : State)
    (context : σ), (flow.WaitsAtPlace frontier ∨ 0 < left) →
    (∀ earlier ∈ seen, flow.remaining frontier ≤ flow.remaining earlier) →
    (flow.walk left seen frontier context).1.Sound flow frontier := by
  induction left with
  | zero =>
    intro seen frontier context waits _
    have place := waits.resolve_right (Nat.lt_irrefl 0)
    rw [walk]
    by_cases done : flow.isCompleted frontier = true
    · rw [if_pos done]
      exact (flow.isCompleted_iff frontier).mp done
    · rw [if_neg done]
      exact place
  | succ left ih =>
    intro seen frontier context _ longer
    have spec := h.step_spec frontier context
    generalize stepped : flow.step frontier context = taken at spec
    cases spec with
    | completed done =>
      rw [walk_ends stepped]
      exact done
    | unhandled pending passed =>
      rw [walk_ends stepped]
      exact ⟨rfl, pending, passed⟩
    | failed _ _ _ =>
      rw [walk_ends stepped]
      trivial
    | exclusive _ _ _ _ place =>
      rw [walk_ends stepped]
      exact ⟨_, place, rfl⟩
    | @silent _ target _ found fixed place =>
      have shorter := h.remaining_lt found fixed
      -- Less remains at the next frontier than at all that were seen, so it is a new one.
      have fresh : State.ofEvents [target] ∉ seen := by
        intro mem
        have := longer _ mem
        omega
      have waits : flow.WaitsAtPlace (.ofEvents [target]) := ⟨target, place, rfl⟩
      rw [walk_passes stepped fresh]
      refine (ih _ _ context (Or.inl waits) ?_).of_waits waits
      intro earlier mem
      rcases List.mem_cons.mp mem with rfl | mem
      · exact Nat.le_refl _
      · have := longer earlier mem
        omega

theorem walk_not_limited (h : flow.Regular) (left : Nat) : ∀ (seen : List State) (frontier : State)
    (context : σ), (flow.WaitsAtPlace frontier ∨ 0 < left) → flow.remaining frontier ≤ left →
    ∀ state, (flow.walk left seen frontier context).1 ≠ .limited state := by
  induction left with
  | zero =>
    intro seen frontier context waits enough state
    have place := waits.resolve_right (Nat.lt_irrefl 0)
    -- A place at which nothing remains to be taken is the completion.
    have done : flow.isCompleted frontier = true := by
      rw [flow.isCompleted_iff]
      by_contra pending
      have := h.remaining_pos place pending
      omega
    intro limited
    rw [walk, if_pos done] at limited
    cases limited
  | succ left ih =>
    intro seen frontier context _ enough state limited
    have spec := h.step_spec frontier context
    rcases stepped : flow.step frontier context with ⟨ending | next, after⟩ <;> rw [stepped] at spec
    · rw [walk_ends stepped] at limited
      cases spec <;> cases limited
    · cases spec with
      | @silent _ target _ found fixed place =>
        have shorter := h.remaining_lt found fixed
        by_cases repeated : State.ofEvents [target] ∈ seen
        · rw [walk_repeats stepped repeated] at limited
          cases limited
        · rw [walk_passes stepped repeated] at limited
          exact ih _ _ _ (Or.inl ⟨target, place, rfl⟩) (by omega) state limited

theorem ending_sound (h : flow.Regular) (state : State) (context : σ) :
    (flow.ending state context).1.Sound flow (flow.entry state) := by
  apply h.walk_sound
  · exact Or.inr flow.config.bound_pos
  · intro earlier mem
    rw [List.mem_singleton.mp mem]

theorem ending_not_limited (h : flow.Regular)
    (enough : flow.table.length ≤ flow.config.maxIterations) (state : State) (context : σ)
    (frontier : State) :
    (flow.ending state context).1 ≠ .limited frontier := by
  apply h.walk_not_limited
  · exact Or.inr flow.config.bound_pos
  · have few := h.remaining_le_length (flow.entry state)
    have bound : flow.config.maxIterations ≤ flow.config.bound := Nat.le_max_left _ _
    omega

end Regular

/-! ## Answers -/

theorem apply_fst (flow : Flow σ ε) (state : State) (context : σ) :
    (flow.apply state context).1 = (flow.ending state context).1.answer flow.config := rfl

end Flow

namespace Ending

variable {config : Config} {ending : Ending ε}

theorem answer_eq_staticCycle {frontier : State}
    (h : ending.answer config = .error (.staticCycle frontier)) : ending = .cyclic frontier := by
  cases ending with
  | cyclic next => cases h; rfl
  | limited state => simp only [answer] at h; split at h <;> cases h
  | _ => cases h

theorem answer_eq_unhandledState {frontier : State} :
    ending.answer config = .error (.unhandledState frontier) ↔ ending = .unhandled frontier := by
  constructor
  · intro h
    cases ending with
    | unhandled state => cases h; rfl
    | limited state => simp only [answer] at h; split at h <;> cases h
    | _ => cases h
  · rintro rfl
    rfl

theorem answer_eq_iterationLimit {limit : Nat}
    (h : ending.answer config = .error (.iterationLimit limit)) :
    ∃ frontier, ending = .limited frontier := by
  cases ending with
  | limited state => exact ⟨state, rfl⟩
  | _ => cases h

theorem answer_eq_callable {cause : ε} (h : ending.answer config = .error (.callable cause)) :
    ending = .failed cause := by
  cases ending with
  | failed own => cases h; rfl
  | limited state => simp only [answer] at h; split at h <;> cases h
  | _ => cases h

theorem answer_eq_ok {state : State} (h : ending.answer config = .ok state) :
    ending = .completed state ∨ ending = .taken state ∨ ending = .limited state := by
  cases ending with
  | completed frontier => cases h; exact Or.inl rfl
  | taken next => cases h; exact Or.inr (Or.inl rfl)
  | limited frontier =>
    simp only [answer] at h
    split at h
    · cases h
      exact Or.inr (Or.inr rfl)
    · cases h
  | _ => cases h

end Ending

namespace Flow

theorem call_completed (flow : Flow σ ε) (context : σ) :
    flow.call ⟨.ofEvents [flow.completed], context⟩ =
      (.ok (.ofEvents [flow.completed]), ⟨.ofEvents [flow.completed], context⟩) := by
  have done : flow.isCompleted (.ofEvents [flow.completed]) = true :=
    flow.isCompleted_singleton.mpr rfl
  have stepped : flow.step (flow.entry (.ofEvents [flow.completed])) context =
      (.ends (.completed (.ofEvents [flow.completed])), context) :=
    flow.step_completed done context
  have ended := flow.ending_of_ends stepped
  simp only [call, apply, ended, Ending.answer]

theorem calls_completed (flow : Flow σ ε) (times : Nat) (context : σ) :
    flow.calls times ⟨.ofEvents [flow.completed], context⟩ = List.replicate times
      (.ok (.ofEvents [flow.completed]), ⟨.ofEvents [flow.completed], context⟩) := by
  induction times with
  | zero => rfl
  | succ times ih =>
    rw [calls, call_completed, List.replicate_succ]
    show _ :: flow.calls times _ = _
    rw [ih]

theorem call_of_ok (flow : Flow σ ε) (state : State) (context : σ) : ∀ next,
    (flow.call ⟨state, context⟩).1 = .ok next → (flow.call ⟨state, context⟩).2.state = next := by
  intro next
  simp only [call]
  rcases flow.apply state context with ⟨error | answer, after⟩
  · intro answered
    cases answered
  · exact Except.ok.inj

theorem call_state (flow : Flow σ ε) (state : State) (context : σ) :
    (flow.call ⟨state, context⟩).2.state = state ∨
      (flow.apply state context).1 = .ok (flow.call ⟨state, context⟩).2.state := by
  unfold call
  rcases flow.apply state context with ⟨error | next, after⟩
  · exact Or.inl rfl
  · exact Or.inr rfl

namespace Regular

variable {flow : Flow σ ε}

theorem apply_unhandled_iff (h : flow.Regular) (state : State) (context : σ) (frontier : State) :
    (flow.apply state context).1 = .error (.unhandledState frontier) ↔
      frontier = state ∧ state ≠ .empty ∧ state ≠ .ofEvents [flow.completed] ∧
        flow.PassesOver state := by
  rw [apply_fst, Ending.answer_eq_unhandledState]
  constructor
  · intro unhandled
    have sound := h.ending_sound state context
    rw [unhandled] at sound
    obtain ⟨same, pending, passed⟩ := sound
    have started : state ≠ .empty := by
      rintro rfl
      exact pending (h.entry_waits.completed_of_passesOver passed)
    rw [flow.entry_of_ne_empty started] at same pending passed
    exact ⟨same, started, pending, passed⟩
  · rintro ⟨rfl, started, pending, passed⟩
    have waiting : ¬flow.isCompleted frontier = true :=
      mt (flow.isCompleted_iff frontier).mp pending
    have notFound : flow.table.lookup frontier = none := by
      rw [h.table]
      exact Table.lookup_eq_none_iff.mpr passed
    have stepped : flow.step (flow.entry frontier) context =
        (.ends (.unhandled frontier), context) := by
      rw [flow.entry_of_ne_empty started, step, if_neg waiting, notFound]
    rw [flow.ending_of_ends stepped]

theorem waits_of_apply (h : flow.Regular) {state next : State} {context : σ}
    (answered : (flow.apply state context).1 = .ok next) : flow.WaitsAtPlace next := by
  have sound := h.ending_sound state context
  rw [apply_fst] at answered
  rcases Ending.answer_eq_ok answered with eq | eq | eq
  · rw [eq] at sound
    exact ⟨flow.completed, flow.isPlace_completed, sound⟩
  · rw [eq] at sound
    exact sound
  · rw [eq] at sound
    exact sound

theorem waits_of_reachable (h : flow.Regular) {state : State} (reachable : flow.Reachable state) :
    state = .empty ∨ flow.WaitsAtPlace state := by
  induction reachable with
  | empty => exact Or.inl rfl
  | @call state context _ ih =>
    rcases flow.call_state state context with kept | answered
    · rw [kept]
      exact ih
    · exact Or.inr (h.waits_of_apply answered)

theorem not_unhandled_of_reachable (h : flow.Regular) {state : State}
    (reachable : flow.Reachable state) (context : σ) (frontier : State) :
    (flow.apply state context).1 ≠ .error (.unhandledState frontier) := by
  intro unhandled
  obtain ⟨_, started, pending, passed⟩ :=
    (h.apply_unhandled_iff state context frontier).mp unhandled
  have waits := (h.waits_of_reachable reachable).resolve_left started
  exact pending (waits.completed_of_passesOver passed)

end Regular

/-- Every flow that a tree of the library's own kinds compiles to keeps to the contract. -/
theorem callContract_of_compile {root : Item σ ε} {config : Config} {flow : Flow σ ε}
    (builtIn : root.isBuiltIn = true) (compiles : Flow.compile root config = .ok flow) :
    flow.CallContract := by
  have h := regular_of_compile builtIn compiles
  constructor
  · intro state context frontier cyclic
    have sound := h.ending_sound state context
    rw [apply_fst] at cyclic
    rw [Ending.answer_eq_staticCycle cyclic] at sound
    exact sound
  · exact h.apply_unhandled_iff
  · exact fun _ _ _ => h.waits_of_apply
  · exact fun _ reachable =>
      ⟨h.waits_of_reachable reachable, h.not_unhandled_of_reachable reachable⟩
  · exact flow.calls_completed
  · intro times context journal
    exact flow.recorded.calls_completed times (context, journal)
  · intro enough state context
    refine ⟨h.ending_not_limited enough state context, fun limit limited => ?_⟩
    rw [apply_fst] at limited
    obtain ⟨frontier, eq⟩ := Ending.answer_eq_iterationLimit limited
    exact h.ending_not_limited enough state context frontier eq

theorem callContract_of_compile_deployment :
    ∃ flow, Deployment.flow ⟨3, .fail⟩ = .ok flow ∧ flow.CallContract := by
  obtain ⟨flow, compiles⟩ : ∃ flow, Deployment.flow ⟨3, .fail⟩ = .ok flow := ⟨_, rfl⟩
  have builtIn : Deployment.item.isBuiltIn = true := rfl
  exact ⟨flow, compiles, callContract_of_compile builtIn compiles⟩

end Flow

end ResumableFlow
