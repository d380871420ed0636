import Mathlib.Order.Lattice.Nat
import ResumableFlow.Proofs.Settling

/-!
# Places and steps

A place of a flow is an event that an instance can wait at: the source of a transition, or the
completion of the flow. `Flow.Regular` gathers what compilation guarantees for a tree of the
library's own kinds, and what one step does then is said once, in `Flow.Regular.step_spec`. The
remaining modules about calls do not open the step again.

`Flow.remaining` is the variant of a call. It bounds the number of silent transitions that are
still to come, and every silent transition makes it smaller.
-/

namespace ResumableFlow

variable {σ ε : Type}

/-! ## Lookups -/

namespace Table

variable {transitions : List (Transition σ ε)} {state : State}

theorem lookup_eq_none_iff : (ofList transitions).lookup state = none ↔
    ∀ event ∈ sourcesOf transitions, state.contains event = false := by
  simp only [lookup, List.findSome?_eq_none_iff, get?_ofList, List.find?_eq_none,
    decide_eq_true_eq, State.contains, List.contains_eq_mem, decide_eq_false_iff_not, mem_sourcesOf]
  constructor
  · rintro h event ⟨transition, mem, rfl⟩ waits
    exact h _ waits transition mem rfl
  · rintro h id waits transition mem rfl
    exact h transition.source ⟨transition, mem, rfl⟩ waits

theorem mem_of_lookup {transition : Transition σ ε}
    (found : (ofList transitions).lookup state = some transition) :
    transition ∈ transitions ∧ state.contains transition.source = true := by
  obtain ⟨id, waits, found⟩ := List.exists_of_findSome?_eq_some found
  rw [get?_ofList] at found
  have sameId : transition.source.id = id := by simpa using List.find?_some found
  refine ⟨List.mem_of_find?_eq_some found, ?_⟩
  rw [State.contains, sameId]
  exact List.contains_iff_mem.mpr waits

end Table

theorem Table.lookup_source {transitions : List (Transition σ ε)}
    (nodup : (sourcesOf transitions).Nodup) {transition : Transition σ ε}
    (mem : transition ∈ transitions) :
    (ofList transitions).lookup (.ofEvents [transition.source]) = some transition := by
  rcases found : (ofList transitions).lookup (.ofEvents [transition.source]) with _ | other
  · have passed := lookup_eq_none_iff.mp found transition.source (mem_sourcesOf.mpr ⟨_, mem, rfl⟩)
    rw [State.contains_singleton.mpr rfl] at passed
    cases passed
  · obtain ⟨memOther, waits⟩ := mem_of_lookup found
    rw [eq_of_source_eq nodup memOther mem (State.contains_singleton.mp waits)]

namespace Flow

/-! ## Regular flows -/

/-- The event is the source of a transition or the completion of the flow. -/
def IsPlace (flow : Flow σ ε) (event : Event) : Prop :=
  event ∈ sourcesOf flow.table.transitions ∨ event = flow.completed

/-- The state waits at one place and at nothing else. -/
def WaitsAtPlace (flow : Flow σ ε) (state : State) : Prop :=
  ∃ event, flow.IsPlace event ∧ state = .ofEvents [event]

/-- What holds of every flow that a tree of the library's own kinds compiles to. -/
structure Regular (flow : Flow σ ε) : Prop where
  table : flow.table = .ofList flow.table.transitions
  nodup : (sourcesOf flow.table.transitions).Nodup
  start_mem : flow.start ∈ sourcesOf flow.table.transitions
  completed_not_mem : flow.completed ∉ sourcesOf flow.table.transitions
  target_place : ∀ event ∈ targetsOf flow.table.transitions, flow.IsPlace event
  builtIn : ∀ transition ∈ flow.table.transitions, transition.BuiltIn
  settles : ∀ event ∈ sourcesOf flow.table.transitions,
    Settles flow.table.transitions flow.completed flow.table.length event

theorem regular_of_compile {root : Item σ ε} {config : Config} {flow : Flow σ ε}
    (builtIn : root.isBuiltIn = true) (compiles : Flow.compile root config = .ok flow) :
    flow.Regular := by
  obtain ⟨compiled, compilesRoot, rfl⟩ := compile_eq_ok_iff.mp compiles
  have wellFormed := Item.wellFormed_of_isBuiltIn builtIn compilesRoot
  exact {
    table := rfl
    nodup := wellFormed.nodup
    start_mem := wellFormed.start_mem
    completed_not_mem := wellFormed.completed_not_mem
    target_place := wellFormed.target_mem
    builtIn := Item.builtIn_of_compile builtIn compilesRoot
    settles := Item.settles_of_compile builtIn compilesRoot }

/-! ## One step -/

/-- What a step of a regular flow does. -/
inductive StepSpec (flow : Flow σ ε) (frontier : State) (context : σ) : Step ε × σ → Prop
  | completed (done : frontier = .ofEvents [flow.completed]) :
    StepSpec flow frontier context (.ends (.completed frontier), context)
  | unhandled (pending : frontier ≠ .ofEvents [flow.completed])
    (passed : ∀ event ∈ sourcesOf flow.table.transitions, frontier.contains event = false) :
    StepSpec flow frontier context (.ends (.unhandled frontier), context)
  | failed {transition : Transition σ ε} {cause : ε} {after : σ}
    (pending : frontier ≠ .ofEvents [flow.completed])
    (found : flow.table.lookup frontier = some transition)
    (taken : transition.take context = (.error cause, after)) :
    StepSpec flow frontier context (.ends (.failed cause), after)
  | exclusive {transition : Transition σ ε} {target : Event} {after : σ}
    (pending : frontier ≠ .ofEvents [flow.completed])
    (found : flow.table.lookup frontier = some transition)
    (exclusive : transition.isExclusive = true)
    (taken : transition.take context = (.ok [target], after)) (place : flow.IsPlace target) :
    StepSpec flow frontier context (.ends (.taken (.ofEvents [target])), after)
  | silent {transition : Transition σ ε} {target : Event}
    (pending : frontier ≠ .ofEvents [flow.completed])
    (found : flow.table.lookup frontier = some transition)
    (fixed : transition.target? = some target) (place : flow.IsPlace target) :
    StepSpec flow frontier context (.passes (.ofEvents [target]), context)

namespace Regular

variable {flow : Flow σ ε}

theorem mem_of_lookup (h : flow.Regular) {frontier : State} {transition : Transition σ ε}
    (found : flow.table.lookup frontier = some transition) :
    transition ∈ flow.table.transitions ∧ frontier.contains transition.source = true := by
  rw [h.table] at found
  exact Table.mem_of_lookup found

theorem source_of_lookup (h : flow.Regular) {event : Event} {transition : Transition σ ε}
    (found : flow.table.lookup (.ofEvents [event]) = some transition) :
    transition ∈ flow.table.transitions ∧ transition.source = event := by
  obtain ⟨mem, waits⟩ := h.mem_of_lookup found
  exact ⟨mem, State.contains_singleton.mp waits⟩

theorem listed_place (h : flow.Regular) {transition : Transition σ ε}
    (mem : transition ∈ flow.table.transitions) {event : Event}
    (listed : event ∈ transition.destinations.map Destination.event) : flow.IsPlace event :=
  h.target_place event (List.mem_flatMap.mpr ⟨transition, mem, listed⟩)

theorem step_spec (h : flow.Regular) (frontier : State) (context : σ) :
    flow.StepSpec frontier context (flow.step frontier context) := by
  unfold Flow.step
  by_cases done : frontier = .ofEvents [flow.completed]
  · rw [if_pos ((flow.isCompleted_iff frontier).mpr done)]
    exact .completed done
  · rw [if_neg (mt (flow.isCompleted_iff frontier).mp done)]
    rcases found : flow.table.lookup frontier with _ | transition
    · rw [h.table] at found
      exact .unhandled done (Table.lookup_eq_none_iff.mp found)
    · obtain ⟨mem, _⟩ := h.mem_of_lookup found
      have builtIn := h.builtIn transition mem
      rcases taken : transition.take context with ⟨cause | events, after⟩
      · simp only [taken]
        exact .failed done found taken
      · simp only [taken]
        obtain ⟨target, listed, rfl⟩ := builtIn.take_ok taken
        rcases exclusivity : transition.isExclusive with _ | _
        · obtain ⟨fixedTarget, fixed, _⟩ := builtIn.target_of_silent exclusivity
          rw [Transition.take_of_target? fixed] at taken
          cases taken
          exact .silent done found fixed (h.listed_place mem listed)
        · exact .exclusive done found exclusivity taken (h.listed_place mem listed)

end Regular

/-! ## The variant of a call -/

/-- The least number of transitions within which the event settles. -/
noncomputable def rank (flow : Flow σ ε) (event : Event) : Nat :=
  sInf {bound | Settles flow.table.transitions flow.completed bound event}

/-- The rank of the event that the next transition leaves. -/
noncomputable def remaining (flow : Flow σ ε) (frontier : State) : Nat :=
  match flow.table.lookup frontier with
  | none => 0
  | some transition => flow.rank transition.source

theorem rank_le {flow : Flow σ ε} {event : Event} {bound : Nat}
    (settles : Settles flow.table.transitions flow.completed bound event) :
    flow.rank event ≤ bound :=
  Nat.sInf_le settles

namespace Regular

variable {flow : Flow σ ε}

theorem settles_rank (h : flow.Regular) {event : Event}
    (mem : event ∈ sourcesOf flow.table.transitions) :
    Settles flow.table.transitions flow.completed (flow.rank event) event := by
  have nonempty :
      {bound | Settles flow.table.transitions flow.completed bound event}.Nonempty :=
    ⟨_, h.settles event mem⟩
  exact Nat.sInf_mem nonempty

theorem rank_le_length (h : flow.Regular) {event : Event}
    (mem : event ∈ sourcesOf flow.table.transitions) : flow.rank event ≤ flow.table.length :=
  rank_le (h.settles event mem)

/-- A silent transition leads to a smaller rank: its source cannot settle in another way. -/
theorem rank_lt (h : flow.Regular) {transition : Transition σ ε}
    (mem : transition ∈ flow.table.transitions) {target : Event}
    (fixed : transition.target? = some target) :
    flow.rank target < flow.rank transition.source := by
  have isSource : transition.source ∈ sourcesOf flow.table.transitions :=
    mem_sourcesOf.mpr ⟨transition, mem, rfl⟩
  have settles := h.settles_rank isSource
  generalize source : transition.source = event, flow.rank transition.source = rank at settles
  cases settles with
  | exit => exact absurd (source ▸ isSource) h.completed_not_mem
  | @exclusive _ other memOther exclusive =>
    obtain rfl := eq_of_source_eq h.nodup mem memOther source
    rw [Transition.isExclusive_of_target? fixed] at exclusive
    cases exclusive
  | @silent bound other otherTarget memOther found rest =>
    obtain rfl := eq_of_source_eq h.nodup mem memOther source
    obtain rfl : otherTarget = target := Option.some.inj (found.symm.trans fixed)
    exact Nat.lt_succ_of_le (rank_le rest)

theorem rank_pos (h : flow.Regular) {event : Event}
    (mem : event ∈ sourcesOf flow.table.transitions) : 0 < flow.rank event := by
  have settles := h.settles_rank mem
  generalize flow.rank event = rank at settles
  cases settles with
  | exit => exact absurd mem h.completed_not_mem
  | exclusive _ _ => exact Nat.succ_pos _
  | silent _ _ _ => exact Nat.succ_pos _

theorem remaining_le_length (h : flow.Regular) (frontier : State) :
    flow.remaining frontier ≤ flow.table.length := by
  unfold remaining
  rcases found : flow.table.lookup frontier with _ | transition
  · exact Nat.zero_le _
  · exact h.rank_le_length (mem_sourcesOf.mpr ⟨transition, (h.mem_of_lookup found).1, rfl⟩)

theorem lookup_source (h : flow.Regular) {transition : Transition σ ε}
    (mem : transition ∈ flow.table.transitions) :
    flow.table.lookup (.ofEvents [transition.source]) = some transition := by
  rw [h.table]
  exact Table.lookup_source h.nodup mem

theorem remaining_pos (h : flow.Regular) {state : State} (waits : flow.WaitsAtPlace state)
    (pending : state ≠ .ofEvents [flow.completed]) : 0 < flow.remaining state := by
  obtain ⟨event, isSource | rfl, rfl⟩ := waits
  · obtain ⟨transition, mem, rfl⟩ := mem_sourcesOf.mp isSource
    rw [remaining, h.lookup_source mem]
    exact h.rank_pos isSource
  · exact absurd rfl pending

/-- Every silent transition makes the rest of the call shorter. -/
theorem remaining_lt (h : flow.Regular) {frontier : State} {transition : Transition σ ε}
    {target : Event} (found : flow.table.lookup frontier = some transition)
    (fixed : transition.target? = some target) :
    flow.remaining (.ofEvents [target]) < flow.remaining frontier := by
  have shorter := h.rank_lt (h.mem_of_lookup found).1 fixed
  have here : flow.remaining frontier = flow.rank transition.source := by
    rw [remaining, found]
  rw [here]
  rcases next : flow.table.lookup (.ofEvents [target]) with _ | following
  · rw [remaining, next]
    exact Nat.zero_lt_of_lt shorter
  · rw [remaining, next]
    show flow.rank following.source < _
    rw [(h.source_of_lookup next).2]
    exact shorter

end Regular

end Flow

end ResumableFlow
