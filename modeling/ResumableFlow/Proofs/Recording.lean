import ResumableFlow.Flow.Drive
import ResumableFlow.Proofs.Correspondences

/-!
# Recording invocations

What a flow invokes, in which order and on which contexts, is observed by recording it. A recorded
function does what the function does and notes each run of it in a journal that travels with the
context. Since flows are defined for contexts of any type, recorded flows need no driver of their
own.

`Records` says that a computation with a journal does what one without it does, and only adds to
the journal. Whatever the library builds from recorded functions records what it builds from the
plain ones: transitions (`Transition.Mirrors.take`), lookups, steps and whole calls
(`Flow.Mirrors.ending`).
-/

namespace ResumableFlow

variable {ι σ ε : Type}

/-! ## Journals -/

/-- One run of a function of the caller. -/
structure Invocation (ι σ ε : Type) where
  /-- Where the function stands. -/
  place : ι
  /-- The error that was handed to it, if it is a handler. -/
  handled : Option ε
  before : σ
  after : σ
  /-- The error that it failed with, if it failed. -/
  failure : Option ε

/-- A context together with the invocations so far, in order. -/
abbrev Journaled (ι σ ε : Type) := σ × List (Invocation ι σ ε)

def failureOf {α : Type} : Except ε α → Option ε
  | .ok _ => none
  | .error cause => some cause

/-- Note each run of the function under its place. -/
def Callable.recorded {α : Type} (place : ι) (handled : Option ε) (run : Callable σ ε α) :
    Callable (Journaled ι σ ε) ε α := fun (context, journal) =>
  ((run context).1, ((run context).2,
    journal ++ [⟨place, handled, context, (run context).2, failureOf (run context).1⟩]))

def Handler.recorded (place : ι) (handler : Handler σ ε) : Handler (Journaled ι σ ε) ε :=
  fun cause => (handler cause).recorded place (some cause)

namespace Transition

/-- The number of handlers around an edge. -/
def guards : Transition σ ε → Nat
  | fixed _ _ => 0
  | chosen _ _ _ _ => 0
  | guarded inner _ _ => inner.guards + 1

/-- Note each run of a function of the edge. The function that chooses the targets stands at
`place` of the source and 0, the handlers around it at 1 and so on outwards. -/
def recorded (place : Event → Nat → ι) : Transition σ ε → Transition (Journaled ι σ ε) ε
  | fixed source target => fixed source target
  | chosen source exclusive options choose =>
    chosen source exclusive options (choose.recorded (place source 0) none)
  | guarded inner restart handler =>
    guarded (inner.recorded place) restart
      (handler.recorded (place inner.source (inner.guards + 1)))

end Transition

def Compiled.recorded (place : Event → Nat → ι) (compiled : Compiled σ ε) :
    Compiled (Journaled ι σ ε) ε :=
  ⟨compiled.scope, compiled.transitions.map (·.recorded place)⟩

/-- Note each run of a function in the flow, under the event that its edge leaves and the number of
handlers that it encloses. -/
def Flow.recorded (flow : Flow σ ε) : Flow (Journaled (Event × Nat) σ ε) ε :=
  ⟨flow.scope, .ofList (flow.table.transitions.map (·.recorded Prod.mk)), flow.config⟩

/-! ## Computations that record others -/

/-- The first computation does what the second one does, and adds to the journal. -/
def Records {α : Type} (recorded : Journaled ι σ ε → α × Journaled ι σ ε) (plain : σ → α × σ) :
    Prop :=
  ∀ context journal, ∃ added,
    recorded (context, journal) = ((plain context).1, ((plain context).2, journal ++ added))

namespace Records

variable {α β : Type}

/-- What leaves the context alone leaves the journal alone. -/
theorem pure (a : α) : Records (ι := ι) (ε := ε) (σ := σ) (fun context => (a, context))
    fun context => (a, context) := by
  intro context journal
  exact ⟨[], by rw [List.append_nil]⟩

theorem recorded (place : ι) (handled : Option ε) (run : Callable σ ε α) :
    Records (run.recorded place handled) run := by
  intro context journal
  exact ⟨_, rfl⟩

theorem map {recorded : Callable (Journaled ι σ ε) ε α} {plain : Callable σ ε α}
    (h : Records recorded plain) (f : α → β) : Records (recorded.map f) (plain.map f) := by
  intro context journal
  obtain ⟨added, eq⟩ := h context journal
  refine ⟨added, ?_⟩
  simp only [Callable.map, eq]
  rcases plain context with ⟨answer | answer, after⟩ <;> rfl

theorem guard {recorded : Callable (Journaled ι σ ε) ε α} {plain : Callable σ ε α}
    {recordedHandler : Handler (Journaled ι σ ε) ε} {handler : Handler σ ε}
    (h : Records recorded plain)
    (handles : ∀ cause, Records (recordedHandler cause) (handler cause)) (fallback : α) :
    Records (recorded.guard recordedHandler fallback) (plain.guard handler fallback) := by
  intro context journal
  obtain ⟨added, eq⟩ := h context journal
  simp only [Callable.guard, eq]
  rcases plain context with ⟨cause | answer, after⟩
  · obtain ⟨addedNext, eqNext⟩ := handles cause after (journal ++ added)
    refine ⟨added ++ addedNext, ?_⟩
    simp only [eqNext, List.append_assoc]
    rcases handler cause after with ⟨failure | _ | _, final⟩ <;> rfl
  · exact ⟨added, rfl⟩

end Records

/-! ## Transitions and flows that record others -/

namespace Transition

/-- The first edge is the second one over functions that record its functions. -/
inductive Mirrors : Transition (Journaled ι σ ε) ε → Transition σ ε → Prop
  | fixed (source target : Event) : Mirrors (.fixed source target) (.fixed source target)
  | chosen {source : Event} {exclusive : Bool} {options : List Destination}
    {recorded : Callable (Journaled ι σ ε) ε (List Event)} {choose : Callable σ ε (List Event)}
    (records : Records recorded choose) :
    Mirrors (.chosen source exclusive options recorded) (.chosen source exclusive options choose)
  | guarded {recorded : Transition (Journaled ι σ ε) ε} {inner : Transition σ ε} {restart : Event}
    {recordedHandler : Handler (Journaled ι σ ε) ε} {handler : Handler σ ε}
    (mirrors : Mirrors recorded inner)
    (records : ∀ cause, Records (recordedHandler cause) (handler cause)) :
    Mirrors (.guarded recorded restart recordedHandler) (.guarded inner restart handler)

theorem Mirrors.recorded (place : Event → Nat → ι) (transition : Transition σ ε) :
    Mirrors (transition.recorded place) transition := by
  induction transition with
  | fixed source target => exact .fixed source target
  | chosen source exclusive options choose => exact .chosen (.recorded _ _ choose)
  | guarded inner restart handler ih => exact .guarded ih fun cause => .recorded _ _ (handler cause)

theorem Mirrors.recorded_map (place : Event → Nat → ι) (transitions : List (Transition σ ε)) :
    List.Forall₂ Mirrors (transitions.map (·.recorded place)) transitions := by
  rw [List.forall₂_map_left_iff, List.forall₂_same]
  exact fun transition _ => .recorded place transition

namespace Mirrors

variable {recorded : Transition (Journaled ι σ ε) ε} {plain : Transition σ ε}

theorem source (h : Mirrors recorded plain) : recorded.source = plain.source := by
  induction h with
  | fixed _ _ => rfl
  | chosen _ => rfl
  | guarded _ _ ih => exact ih

theorem isExclusive (h : Mirrors recorded plain) : recorded.isExclusive = plain.isExclusive := by
  induction h with
  | fixed _ _ => rfl
  | chosen _ => rfl
  | guarded _ _ ih => exact ih

theorem take (h : Mirrors recorded plain) : Records recorded.take plain.take := by
  induction h with
  | fixed _ _ => exact .pure _
  | chosen records => exact records
  | guarded _ records ih => exact ih.guard records _

end Mirrors

@[simp] theorem source_recorded (place : Event → Nat → ι) (transition : Transition σ ε) :
    (transition.recorded place).source = transition.source :=
  (Mirrors.recorded place transition).source

@[simp] theorem isExclusive_recorded (place : Event → Nat → ι) (transition : Transition σ ε) :
    (transition.recorded place).isExclusive = transition.isExclusive :=
  (Mirrors.recorded place transition).isExclusive

end Transition

/-- The first flow has the scope and the settings of the second one, and mirrors its edges. -/
structure Flow.Mirrors (recorded : Flow (Journaled ι σ ε) ε) (plain : Flow σ ε) : Prop where
  scope : recorded.scope = plain.scope
  config : recorded.config = plain.config
  transitions : List.Forall₂ Transition.Mirrors recorded.table.transitions plain.table.transitions
  recordedTable : recorded.table = .ofList recorded.table.transitions
  plainTable : plain.table = .ofList plain.table.transitions

theorem Flow.Mirrors.recorded {flow : Flow σ ε}
    (table : flow.table = .ofList flow.table.transitions) : Flow.Mirrors flow.recorded flow where
  scope := rfl
  config := rfl
  transitions := Transition.Mirrors.recorded_map Prod.mk flow.table.transitions
  recordedTable := rfl
  plainTable := table

namespace Flow.Mirrors

variable {recorded : Flow (Journaled ι σ ε) ε} {plain : Flow σ ε}

theorem related (h : Mirrors recorded plain) : recorded.Related Transition.Mirrors plain :=
  ⟨h.scope, h.config, h.transitions, h.recordedTable, h.plainTable⟩

theorem isCompleted (h : Mirrors recorded plain) (state : State) :
    recorded.isCompleted state = plain.isCompleted state := h.related.isCompleted_eq state

theorem entry (h : Mirrors recorded plain) (state : State) :
    recorded.entry state = plain.entry state := h.related.entry_eq state

theorem lookup (h : Mirrors recorded plain) (state : State) :
    Option.Rel Transition.Mirrors (recorded.table.lookup state) (plain.table.lookup state) :=
  h.related.lookup Transition.Mirrors.source state

theorem step (h : Mirrors recorded plain) (frontier : State) :
    Records (recorded.step frontier) (plain.step frontier) := by
  intro context journal
  simp only [Flow.step, h.isCompleted]
  by_cases completed : plain.isCompleted frontier = true
  · simp only [if_pos completed]
    exact Records.pure _ context journal
  · simp only [if_neg completed]
    have found := h.lookup frontier
    generalize recorded.table.lookup frontier = recordedFound,
      plain.table.lookup frontier = plainFound at found
    cases found with
    | none => exact Records.pure _ context journal
    | @some _ transition mirrors =>
      obtain ⟨added, eq⟩ := mirrors.take context journal
      refine ⟨added, ?_⟩
      simp only [eq, mirrors.isExclusive]
      rcases transition.take context with ⟨cause | events, after⟩
      · rfl
      · cases transition.isExclusive <;> rfl

theorem walk (h : Mirrors recorded plain) (left : Nat) : ∀ (seen : List State) (frontier : State),
    Records (recorded.walk left seen frontier) (plain.walk left seen frontier) := by
  induction left with
  | zero =>
    intro seen frontier context journal
    simp only [Flow.walk, h.isCompleted]
    exact Records.pure _ context journal
  | succ left ih =>
    intro seen frontier context journal
    obtain ⟨added, eq⟩ := h.step frontier context journal
    simp only [Flow.walk, eq]
    rcases plain.step frontier context with ⟨ending | next, after⟩
    · exact ⟨added, rfl⟩
    · by_cases repeated : next ∈ seen
      · refine ⟨added, ?_⟩
        simp only [if_pos repeated]
      · simp only [if_neg repeated]
        obtain ⟨addedNext, eqNext⟩ := ih (next :: seen) next after (journal ++ added)
        exact ⟨added ++ addedNext, by rw [eqNext, List.append_assoc]⟩

/-- A call of the recorded flow is the call of the plain one, with a journal. -/
theorem ending (h : Mirrors recorded plain) (state : State) :
    Records (recorded.ending state) (plain.ending state) := by
  intro context journal
  simp only [Flow.ending, h.config, h.entry]
  exact h.walk _ _ _ context journal

theorem call (h : Mirrors recorded plain) (state : State) (context : σ)
    (journal : List (Invocation ι σ ε)) : ∃ added,
    recorded.call ⟨state, (context, journal)⟩ = ((plain.call ⟨state, context⟩).1,
      ⟨(plain.call ⟨state, context⟩).2.state,
        ((plain.call ⟨state, context⟩).2.context, journal ++ added)⟩) := by
  obtain ⟨added, eq⟩ := h.ending state context journal
  refine ⟨added, ?_⟩
  simp only [Flow.call, Flow.apply, eq, h.config]
  rcases (plain.ending state context).1.answer plain.config with error | next <;> rfl

end Flow.Mirrors

end ResumableFlow
