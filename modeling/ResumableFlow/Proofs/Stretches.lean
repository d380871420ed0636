import ResumableFlow.Proofs.Places
import ResumableFlow.Proofs.Recording

/-!
# Silent stretches

Where the silent edges of a flow have fixed targets, a call is a walk that looks at no context,
followed by at most one step that does. `Flow.halt` is that walk, and `Flow.Steady.walk_eq_finish`
says that a call does nothing else. What a call invokes, and whether it ends in a cycle, is then
a question about lists of events.
-/

namespace ResumableFlow

variable {ι σ ε : Type}

@[simp] theorem Transition.target?_recorded (place : Event → Nat → ι)
    (transition : Transition σ ε) : (transition.recorded place).target? = transition.target? := by
  induction transition with
  | fixed _ _ => rfl
  | chosen _ _ _ _ => rfl
  | guarded _ _ _ ih => exact ih

namespace Flow

theorem lookup_recorded {flow : Flow σ ε} (table : flow.table = .ofList flow.table.transitions)
    (frontier : State) : flow.recorded.table.lookup frontier =
      (flow.table.lookup frontier).map (·.recorded Prod.mk) := by
  have related : List.Forall₂
      (fun recorded (plain : Transition σ ε) => recorded = plain.recorded Prod.mk)
      (flow.table.transitions.map (·.recorded Prod.mk)) flow.table.transitions := by
    rw [List.forall₂_map_left_iff, List.forall₂_same]
    exact fun _ _ => rfl
  have found := Table.lookup_rel (fun eq => by rw [eq, Transition.source_recorded]) related frontier
  rw [← table] at found
  show (Table.ofList (flow.table.transitions.map (·.recorded Prod.mk))).lookup frontier = _
  generalize (Table.ofList (flow.table.transitions.map (·.recorded Prod.mk))).lookup frontier =
    foundRecorded, flow.table.lookup frontier = foundPlain at found
  cases found with
  | none => rfl
  | some eq => rw [eq, Option.map_some]

/-- All silent edges have a fixed target, under any number of handlers. -/
def SilentFixed (flow : Flow σ ε) : Prop :=
  ∀ transition ∈ flow.table.transitions, transition.isExclusive = false →
    ∃ target, transition.target? = some target

structure Steady (flow : Flow σ ε) : Prop where
  table : flow.table = .ofList flow.table.transitions
  fixed : flow.SilentFixed

theorem Regular.steady {flow : Flow σ ε} (h : flow.Regular) : flow.Steady where
  table := h.table
  fixed := by
    intro transition mem silent
    obtain ⟨target, fixed, _⟩ := (h.builtIn transition mem).target_of_silent silent
    exact ⟨target, fixed⟩

/-- The frontier that the silent edge from a frontier leads to, if there is such an edge. -/
def successor (flow : Flow σ ε) (frontier : State) : Option State :=
  if flow.isCompleted frontier then none
  else (flow.table.lookup frontier).bind fun transition =>
    transition.target?.map fun target => .ofEvents [target]

/-- The frontier is the completion, has no transition, or has an exclusive one. -/
def StopsAt (flow : Flow σ ε) (frontier : State) : Prop :=
  flow.isCompleted frontier = true ∨ flow.table.lookup frontier = none ∨
    ∃ transition, flow.table.lookup frontier = some transition ∧ transition.isExclusive = true

theorem successor_eq_some_iff {flow : Flow σ ε} {frontier next : State} :
    flow.successor frontier = some next ↔ ¬flow.isCompleted frontier = true ∧
      ∃ transition target, flow.table.lookup frontier = some transition ∧
        transition.target? = some target ∧ next = .ofEvents [target] := by
  unfold successor
  by_cases done : flow.isCompleted frontier = true
  · simp [done]
  · rw [if_neg done, and_iff_right done]
    constructor
    · intro h
      obtain ⟨transition, found, mapped⟩ := Option.bind_eq_some_iff.mp h
      obtain ⟨target, fixed, eq⟩ := Option.map_eq_some_iff.mp mapped
      exact ⟨transition, target, found, fixed, eq.symm⟩
    · rintro ⟨transition, target, found, fixed, rfl⟩
      rw [found, Option.bind_some, fixed]
      rfl

theorem step_of_successor {flow : Flow σ ε} {frontier next : State}
    (h : flow.successor frontier = some next) (context : σ) :
    flow.step frontier context = (.passes next, context) := by
  obtain ⟨pending, transition, target, found, fixed, rfl⟩ := successor_eq_some_iff.mp h
  have taken := Transition.take_of_target? fixed context
  have silent := Transition.isExclusive_of_target? fixed
  simp [step, pending, found, taken, silent]

theorem Steady.successor_eq_none_iff {flow : Flow σ ε} (h : flow.Steady) {frontier : State} :
    flow.successor frontier = none ↔ flow.StopsAt frontier := by
  unfold successor StopsAt
  by_cases done : flow.isCompleted frontier = true
  · simp [done]
  · rw [if_neg done, or_iff_right done]
    rcases found : flow.table.lookup frontier with _ | transition
    · simp
    · have mem : transition ∈ flow.table.transitions := by
        rw [h.table] at found
        exact (Table.mem_of_lookup found).1
      rcases exclusivity : transition.isExclusive with _ | _
      · obtain ⟨target, fixed⟩ := h.fixed transition mem exclusivity
        simp [fixed, exclusivity]
      · have moving : transition.target? = none := by
          rcases fixed : transition.target? with _ | target
          · rfl
          · rw [Transition.isExclusive_of_target? fixed] at exclusivity
            cases exclusivity
        simp [moving, exclusivity]

end Flow

/-! ## The walk without a context -/

/-- Where the silent part of a call comes to. -/
inductive Halt where
  /-- No silent edge leads on from the frontier. -/
  | stops (frontier : State)
  | repeats (next : State)
  | limited (frontier : State)

namespace Flow

/-- Follow up to `left` silent edges from `frontier`, where `seen` are the frontiers so far. -/
def halt (flow : Flow σ ε) : (left : Nat) → (seen : List State) → (frontier : State) → Halt
  | 0, _, frontier => if flow.isCompleted frontier then .stops frontier else .limited frontier
  | left + 1, seen, frontier =>
    match flow.successor frontier with
    | none => .stops frontier
    | some next => if next ∈ seen then .repeats next else flow.halt left (next :: seen) next

end Flow

/-- The rest of a call: the one step from where the silent part stops, if it does. -/
def Halt.finish (flow : Flow σ ε) : Halt → σ → Ending ε × σ
  | stops frontier, context => flow.walk 1 [] frontier context
  | repeats next, context => (.cyclic next, context)
  | limited frontier, context => (.limited frontier, context)

/-- How a call ends with an exclusive edge. -/
def Ending.ofTake : Except ε (List Event) → Ending ε
  | .ok events => .taken (.ofEvents events)
  | .error cause => .failed cause

namespace Flow

section halt

variable {flow : Flow σ ε} {left : Nat} {seen : List State} {frontier next : State}

theorem halt_stops (h : flow.successor frontier = none) :
    flow.halt (left + 1) seen frontier = .stops frontier := by
  simp only [halt, h]

theorem halt_repeats (h : flow.successor frontier = some next) (repeated : next ∈ seen) :
    flow.halt (left + 1) seen frontier = .repeats next := by
  simp only [halt, h, if_pos repeated]

theorem halt_passes (h : flow.successor frontier = some next) (fresh : next ∉ seen) :
    flow.halt (left + 1) seen frontier = flow.halt left (next :: seen) next := by
  simp only [halt, h, if_neg fresh]

end halt

/-- A silent edge leads from the one frontier to the other. -/
def Passes (flow : Flow σ ε) (frontier next : State) : Prop := flow.successor frontier = some next

theorem reaches_of_halt {flow : Flow σ ε} (left : Nat) :
    ∀ {seen : List State} {frontier last : State}, flow.halt left seen frontier = .stops last →
    Relation.ReflTransGen flow.Passes frontier last ∧ flow.successor last = none := by
  induction left with
  | zero =>
    intro seen frontier last h
    rw [halt] at h
    split at h
    · next done =>
      cases h
      refine ⟨.refl, ?_⟩
      rw [successor, if_pos done]
    · cases h
  | succ left ih =>
    intro seen frontier last h
    rcases followed : flow.successor frontier with _ | next
    · rw [halt_stops followed] at h
      cases h
      exact ⟨.refl, followed⟩
    · by_cases repeated : next ∈ seen
      · rw [halt_repeats followed repeated] at h
        cases h
      · rw [halt_passes followed repeated] at h
        obtain ⟨reaches, stop⟩ := ih h
        exact ⟨.head followed reaches, stop⟩

theorem step_unhandled (flow : Flow σ ε) {frontier : State}
    (pending : ¬flow.isCompleted frontier = true) (notFound : flow.table.lookup frontier = none)
    (context : σ) : flow.step frontier context = (.ends (.unhandled frontier), context) := by
  rw [step, if_neg pending, notFound]

theorem step_exclusive (flow : Flow σ ε) {frontier : State} {transition : Transition σ ε}
    (pending : ¬flow.isCompleted frontier = true)
    (found : flow.table.lookup frontier = some transition)
    (exclusive : transition.isExclusive = true) (context : σ) :
    flow.step frontier context =
      (.ends (.ofTake (transition.take context).1), (transition.take context).2) := by
  simp only [step, if_neg pending, found, exclusive]
  rcases transition.take context with ⟨cause | events, after⟩ <;> rfl

section finish

variable (flow : Flow σ ε) {frontier : State} (context : σ)

theorem finish_completed (done : flow.isCompleted frontier = true) :
    (Halt.stops frontier).finish flow context = (.completed frontier, context) :=
  walk_ends (flow.step_completed done context)

theorem finish_unhandled (pending : ¬flow.isCompleted frontier = true)
    (notFound : flow.table.lookup frontier = none) :
    (Halt.stops frontier).finish flow context = (.unhandled frontier, context) :=
  walk_ends (flow.step_unhandled pending notFound context)

theorem finish_exclusive {transition : Transition σ ε}
    (pending : ¬flow.isCompleted frontier = true)
    (found : flow.table.lookup frontier = some transition)
    (exclusive : transition.isExclusive = true) :
    (Halt.stops frontier).finish flow context =
      (.ofTake (transition.take context).1, (transition.take context).2) :=
  walk_ends (flow.step_exclusive pending found exclusive context)

end finish

/-- Why no silent edge leads on from a frontier. -/
inductive StopSpec (flow : Flow σ ε) (frontier : State) : Prop
  | completed (done : flow.isCompleted frontier = true)
  | unhandled (pending : ¬flow.isCompleted frontier = true)
    (notFound : flow.table.lookup frontier = none)
  | exclusive {transition : Transition σ ε} (pending : ¬flow.isCompleted frontier = true)
    (found : flow.table.lookup frontier = some transition)
    (exclusive : transition.isExclusive = true)

theorem Steady.stop_spec {flow : Flow σ ε} (h : flow.Steady) {frontier : State}
    (stop : flow.successor frontier = none) : flow.StopSpec frontier := by
  by_cases done : flow.isCompleted frontier = true
  · exact .completed done
  · rcases (h.successor_eq_none_iff.mp stop).resolve_left done with
      notFound | ⟨transition, found, exclusive⟩
    · exact .unhandled done notFound
    · exact .exclusive done found exclusive

/-- Where no silent edge leads on, one step ends the call. -/
theorem Steady.step_ends {flow : Flow σ ε} (h : flow.Steady) {frontier : State}
    (stop : flow.successor frontier = none) (context : σ) :
    ∃ ending after, flow.step frontier context = (.ends ending, after) := by
  cases h.stop_spec stop with
  | completed done => exact ⟨_, _, flow.step_completed done context⟩
  | unhandled pending notFound => exact ⟨_, _, flow.step_unhandled pending notFound context⟩
  | exclusive pending found exclusive =>
    exact ⟨_, _, flow.step_exclusive pending found exclusive context⟩

/-- A walk is its silent part, which sees no context, and then the rest. -/
theorem Steady.walk_eq_finish {flow : Flow σ ε} (h : flow.Steady) (left : Nat) :
    ∀ (seen : List State) (frontier : State) (context : σ),
    flow.walk left seen frontier context = (flow.halt left seen frontier).finish flow context := by
  induction left with
  | zero =>
    intro seen frontier context
    rw [walk, halt]
    by_cases done : flow.isCompleted frontier = true
    · rw [if_pos done, if_pos done, flow.finish_completed context done]
    · rw [if_neg done, if_neg done, Halt.finish]
  | succ left ih =>
    intro seen frontier context
    rcases followed : flow.successor frontier with _ | next
    · obtain ⟨ending, after, stepped⟩ := h.step_ends followed context
      rw [halt_stops followed, Halt.finish, walk_ends stepped, walk_ends stepped]
    · have stepped := step_of_successor followed context
      by_cases repeated : next ∈ seen
      · rw [halt_repeats followed repeated, walk_repeats stepped repeated, Halt.finish]
      · rw [halt_passes followed repeated, walk_passes stepped repeated, ih]

/-- Where the silent part of the call from a state comes to. -/
def haltOf (flow : Flow σ ε) (state : State) : Halt :=
  flow.halt flow.config.bound [flow.entry state] (flow.entry state)

theorem Steady.ending_eq_finish {flow : Flow σ ε} (h : flow.Steady) (state : State) (context : σ) :
    flow.ending state context = (flow.haltOf state).finish flow context :=
  h.walk_eq_finish _ _ _ context

end Flow

end ResumableFlow
