import ResumableFlow.Proofs.Demands
import ResumableFlow.Proofs.Exits

/-!
# Counting calls

A call of a flow under way invokes one activity or condition, handlers aside, or it invokes nothing
and completes the flow. A run to completion therefore takes as many calls as there are invocations,
and one more if the last call is of the second kind. Which kind it is depends on the root of the
tree (`Item.silentCalls`). An invocation is an entry in the journal of the recorded tree, where each
activity and each condition notes its own runs under the address of its item.

The count goes along the drive by induction (`Flow.Ledger.drive_balanced`). What it carries besides
depends on the root: for a gate, that the condition is asked next or held when it was last asked.
-/

namespace ResumableFlow

variable {ι σ ε : Type}

/-! ## The journal of a run -/

/-- The number of invocations that are not of handlers. -/
def invocations (journal : List (Invocation ι σ ε)) : Nat :=
  journal.countP fun entry => entry.handled.isNone

section heldLast

variable [DecidableEq ι]

/-- The last invocation at the place that is not of a handler. -/
def lastAt (place : ι) (journal : List (Invocation ι σ ε)) : Option (Invocation ι σ ε) :=
  journal.reverse.find? fun entry => entry.place = place ∧ entry.handled.isNone

/-- The condition at the place held when it was last asked. -/
def heldLast (place : ι) (condition : Callable σ ε Bool) (journal : List (Invocation ι σ ε)) :
    Bool :=
  match (lastAt place journal).map fun entry => (condition entry.before).1 with
  | some (.ok holds) => holds
  | _ => false

theorem lastAt_handlers (place : ι) (journal : List (Invocation ι σ ε))
    {handlers : List (Invocation ι σ ε)} (handling : ∀ entry ∈ handlers, entry.handled ≠ none) :
    lastAt place (journal ++ handlers) = lastAt place journal := by
  have none : handlers.reverse.find?
      (fun entry => entry.place = place ∧ entry.handled.isNone) = none := by
    rw [List.find?_eq_none]
    intro entry mem
    have handled := handling entry (List.mem_reverse.mp mem)
    simp [handled]
  rw [lastAt, List.reverse_append, List.find?_append, none, Option.none_or, lastAt]

theorem lastAt_concat (place : ι) (journal : List (Invocation ι σ ε)) (entry : Invocation ι σ ε)
    (own : entry.handled = none) : lastAt place (journal ++ [entry]) =
      if entry.place = place then some entry else lastAt place journal := by
  rw [lastAt, List.reverse_append, List.reverse_singleton, List.singleton_append, List.find?_cons]
  by_cases there : entry.place = place
  · simp [there, own]
  · simp [there, lastAt]

end heldLast

namespace RunsOnce

variable {place : ι} {context : σ} {failure : Option ε} {added : List (Invocation ι σ ε)}

theorem invocations_append (h : RunsOnce place context failure added)
    (journal : List (Invocation ι σ ε)) :
    invocations (journal ++ added) = invocations journal + 1 := by
  obtain ⟨after, handlers, rfl, handling⟩ := h.eq_cons
  have none : handlers.countP (fun entry => entry.handled.isNone) = 0 := by
    rw [List.countP_eq_zero]
    intro entry mem isNone
    exact handling entry mem (Option.isNone_iff_eq_none.mp isNone)
  rw [invocations, List.countP_append, List.countP_cons_of_pos rfl, none, invocations]

variable [DecidableEq ι]

theorem lastAt_append (h : RunsOnce place context failure added) (other : ι)
    (journal : List (Invocation ι σ ε)) : ∃ after, lastAt other (journal ++ added) =
      if place = other then some ⟨place, none, context, after, failure⟩
      else lastAt other journal := by
  obtain ⟨after, handlers, rfl, handling⟩ := h.eq_cons
  refine ⟨after, ?_⟩
  rw [List.append_cons, lastAt_handlers other _ handling, lastAt_concat other _ _ rfl]

theorem heldLast_append (h : RunsOnce place context failure added)
    (condition : Callable σ ε Bool) (journal : List (Invocation ι σ ε)) {holds : Bool}
    (answered : (condition context).1 = .ok holds) :
    heldLast place condition (journal ++ added) = holds := by
  obtain ⟨after, eq⟩ := h.lastAt_append place journal
  rw [if_pos rfl] at eq
  rw [heldLast, eq, Option.map_some, answered]

/-- Runs of other functions do not matter to the condition. -/
theorem heldLast_append_of_ne (h : RunsOnce place context failure added) {other : ι}
    (elsewhere : place ≠ other) (condition : Callable σ ε Bool)
    (journal : List (Invocation ι σ ε)) :
    heldLast other condition (journal ++ added) = heldLast other condition journal := by
  obtain ⟨after, eq⟩ := h.lastAt_append other journal
  rw [if_neg elsewhere] at eq
  rw [heldLast, eq, heldLast]

end RunsOnce

/-- The number of calls that invoke nothing in a run of the tree to completion, when the tree stands
at the address `here`. -/
def Item.silentCalls (here : List Nat) (journal : List (Invocation (List Nat) σ ε)) :
    Item σ ε → Nat
  | steps _ _ => 1
  | gate _ _ condition => if heldLast here condition journal then 1 else 0
  | retry body _ => body.silentCalls (here ++ [0]) journal
  | activity _ _ | loopUntil _ _ _ | waitFor _ _ | custom _ _ => 0

/-! ## One call -/

namespace Flow

/-- What the flow of an instance under way does in a call, if calls may take enough transitions. The
function of an edge stands at the place that belongs to the event it leaves. -/
inductive CallSpec (recording : Flow (Journaled ι σ ε) ε) (place : Event → ι) (state : State)
    (context : σ) (journal : List (Invocation ι σ ε)) :
    CallResult ε × Instance (Journaled ι σ ε) → Prop
  | silent {transition : Transition (Journaled ι σ ε) ε}
    (own : ∀ event, recording.demand state ≠ .ask event)
    (mem : transition ∈ recording.table.transitions)
    (fixed : transition.target? = some recording.completed) :
    CallSpec recording place state context journal
      (.ok (.ofEvents [recording.completed]),
        ⟨.ofEvents [recording.completed], (context, journal)⟩)
  | taken {transition : Transition (Journaled ι σ ε) ε} {target : Event} {after : σ}
    {failure : Option ε} {added : List (Invocation ι σ ε)}
    (asks : recording.demand state = .ask transition.source)
    (mem : transition ∈ recording.table.transitions) (exclusive : transition.isExclusive = true)
    (taken : transition.take (context, journal) = (.ok [target], (after, journal ++ added)))
    (isPlace : recording.IsPlace target)
    (runs : RunsOnce (place transition.source) context failure added) :
    CallSpec recording place state context journal
      (.ok (.ofEvents [target]), ⟨.ofEvents [target], (after, journal ++ added)⟩)
  | failed {transition : Transition (Journaled ι σ ε) ε} {cause : ε} {after : σ}
    {failure : Option ε} {added : List (Invocation ι σ ε)}
    (asks : recording.demand state = .ask transition.source)
    (mem : transition ∈ recording.table.transitions) (exclusive : transition.isExclusive = true)
    (runs : RunsOnce (place transition.source) context failure added) :
    CallSpec recording place state context journal
      (.error (.callable cause), ⟨state, (after, journal ++ added)⟩)

namespace Regular

variable {flow : Flow σ ε}

/-- The entry of a state that calls lead to. -/
theorem entry_waits_of_started (h : flow.Regular) {state : State}
    (started : state = .empty ∨ flow.WaitsAtPlace state) :
    flow.WaitsAtPlace (flow.entry state) := by
  rcases started with rfl | ⟨event, place, rfl⟩
  · exact h.entry_waits
  · exact ⟨event, place, rfl⟩

theorem entry_pending (h : flow.Regular) {state : State}
    (started : state = .empty ∨ flow.WaitsAtPlace state)
    (pending : ¬flow.isCompleted state = true) : ¬flow.isCompleted (flow.entry state) = true := by
  rcases started with rfl | ⟨event, place, rfl⟩
  · rw [entry_empty, flow.isCompleted_singleton]
    intro eq
    exact h.completed_not_mem (eq ▸ h.start_mem)
  · exact pending

/-- A call that asks no function comes to the completion, if calls may take enough transitions. -/
theorem haltOf_eq_completed (h : flow.Regular)
    (enough : flow.table.length ≤ flow.config.maxIterations) {state : State}
    (started : state = .empty ∨ flow.WaitsAtPlace state)
    (own : ∀ event, flow.demand state ≠ .ask event) (context : σ) :
    flow.haltOf state = .stops (.ofEvents [flow.completed]) := by
  have ended := h.steady.ending_eq_finish state context
  have sound := h.ending_sound state context
  have unlimited := h.ending_not_limited enough state context
  have spec := h.steady.demand_spec state
  generalize flow.demand state = demand at spec own
  cases spec with
  | completed halts done => rw [halts, (flow.isCompleted_iff _).mp done]
  | unhandled halts pending notFound =>
    rw [ended, halts, flow.finish_unhandled context pending notFound] at sound
    obtain ⟨_, waiting, passed⟩ := sound
    exact absurd ((h.entry_waits_of_started started).completed_of_passesOver passed) waiting
  | exclusive halts pending found exclusive => exact absurd rfl (own _)
  | repeats halts =>
    rw [ended, halts] at sound
    exact sound.elim
  | @limited frontier halts =>
    rw [ended, halts] at unlimited
    exact absurd rfl (unlimited frontier)

theorem exists_fixed_completed (h : flow.Regular) {state : State}
    (started : state = .empty ∨ flow.WaitsAtPlace state)
    (pending : ¬flow.isCompleted state = true)
    (halts : flow.haltOf state = .stops (.ofEvents [flow.completed])) :
    ∃ transition ∈ flow.table.transitions, transition.target? = some flow.completed := by
  have reaches := (reaches_of_halt _ halts).1
  rcases Relation.ReflTransGen.cases_tail reaches with here | ⟨before, _, passes⟩
  · refine absurd ?_ (h.entry_pending started pending)
    rw [← here, flow.isCompleted_singleton]
  · obtain ⟨_, transition, target, found, fixed, eq⟩ := successor_eq_some_iff.mp passes
    rw [State.ofEvents_singleton_inj.mp eq]
    exact ⟨transition, (h.mem_of_lookup found).1, fixed⟩

/-- A call that asks no function completes the flow by a silent edge and invokes nothing. -/
theorem call_of_silent (h : flow.Regular)
    (enough : flow.table.length ≤ flow.config.maxIterations) {state : State}
    (started : state = .empty ∨ flow.WaitsAtPlace state)
    (pending : ¬flow.isCompleted state = true)
    (own : ∀ event, flow.demand state ≠ .ask event) (context : σ) :
    (∃ transition ∈ flow.table.transitions, transition.target? = some flow.completed) ∧
      flow.call ⟨state, context⟩ =
        (.ok (.ofEvents [flow.completed]), ⟨.ofEvents [flow.completed], context⟩) := by
  have halts := h.haltOf_eq_completed enough started own context
  have ended := h.steady.ending_eq_finish state context
  rw [halts, flow.finish_completed context (flow.isCompleted_singleton.mpr rfl)] at ended
  refine ⟨h.exists_fixed_completed started pending halts, ?_⟩
  simp only [Flow.call, apply, ended, Ending.answer]

end Regular

theorem RunsAt.callSpec {recording : Flow (Journaled ι σ ε) ε} {place : Event → ι}
    (runsAt : recording.RunsAt place) (h : recording.Regular)
    (enough : recording.table.length ≤ recording.config.maxIterations)
    {state : State} (started : state = .empty ∨ recording.WaitsAtPlace state)
    (pending : ¬recording.isCompleted state = true) (context : σ)
    (journal : List (Invocation ι σ ε)) :
    recording.CallSpec place state context journal
      (recording.call ⟨state, (context, journal)⟩) := by
  rcases asked : recording.demand state with result | event
  · have own : ∀ event, recording.demand state ≠ .ask event := by
      intro event asks
      rw [asked] at asks
      cases asks
    obtain ⟨⟨transition, mem, fixed⟩, called⟩ :=
      h.call_of_silent enough started pending own (context, journal)
    rw [called]
    exact .silent own mem fixed
  · have spec := h.apply_spec state (context, journal)
    rw [asked] at spec
    simp only [Flow.call]
    generalize recording.apply state (context, journal) = applied at spec
    cases spec with
    | @takes transition mem exclusive =>
      obtain ⟨answer, after, failure, added, taken, runs, _⟩ :=
        runsAt transition mem exclusive context journal
      simp only [taken]
      rcases answer with cause | events
      · exact .failed asked mem exclusive runs
      · obtain ⟨target, listed, rfl⟩ := (h.builtIn transition mem).take_ok taken
        exact .taken asked mem exclusive taken (h.listed_place mem listed) runs

/-! ## Drives -/

theorem drive_of_isCompleted (flow : Flow σ ε) (resubmit : Bool) (calls : Nat) {inst : Instance σ}
    (done : flow.isCompleted inst.state = true) : flow.drive resubmit calls inst = [] := by
  cases calls with
  | zero => rfl
  | succ calls => rw [drive, if_pos done]

theorem drive_resubmitted (flow : Flow σ ε) (calls : Nat) {inst : Instance σ}
    (pending : ¬flow.isCompleted inst.state = true) : flow.drive true (calls + 1) inst =
      flow.call inst :: flow.drive true calls (flow.call inst).2 := by
  rw [drive, if_neg pending]
  rcases flow.call inst with ⟨error | state, next⟩ <;> rfl

end Flow

theorem Instance.after_cons (inst : Instance σ) (result : CallResult ε × Instance σ)
    (results : List (CallResult ε × Instance σ)) :
    inst.after (result :: results) = result.2.after results := by
  cases results with
  | nil => rfl
  | cons next rest =>
    simp only [Instance.after, List.getLast?_cons, Option.map_some, Option.getD_some]

namespace Flow

/-- What the journals of a run tell about the way it comes to completion. `extra` is the number of
silent calls that the journal of a whole run tells, and `Open` holds of the states and journals on
the way. -/
structure Ledger (recording : Flow (Journaled ι σ ε) ε) (place : Event → ι)
    (extra : List (Invocation ι σ ε) → Nat) (Open : State → List (Invocation ι σ ε) → Prop) :
    Prop where
  opens : Open .empty []
  silent : ∀ {state journal}, Open state journal →
    (∀ event, recording.demand state ≠ .ask event) →
    ∀ transition ∈ recording.table.transitions,
      transition.target? = some recording.completed → extra journal = 1
  closes : ∀ {state journal context after failure added}, Open state journal →
    ∀ transition ∈ recording.table.transitions, transition.isExclusive = true →
      recording.demand state = .ask transition.source →
      transition.take (context, journal) =
        (.ok [recording.completed], (after, journal ++ added)) →
      RunsOnce (place transition.source) context failure added → extra (journal ++ added) = 0
  moves : ∀ {state journal context target after failure added}, Open state journal →
    ∀ transition ∈ recording.table.transitions, transition.isExclusive = true →
      recording.demand state = .ask transition.source →
      transition.take (context, journal) = (.ok [target], (after, journal ++ added)) →
      RunsOnce (place transition.source) context failure added → target ≠ recording.completed →
      Open (.ofEvents [target]) (journal ++ added)
  fails : ∀ {state journal context failure added}, Open state journal →
    ∀ transition ∈ recording.table.transitions, transition.isExclusive = true →
      recording.demand state = .ask transition.source →
      RunsOnce (place transition.source) context failure added → Open state (journal ++ added)

/-- The calls from an instance, if they complete it, are as many as the invocations they add to its
journal together with the silent calls. -/
def Balanced (recording : Flow (Journaled ι σ ε) ε) (extra : List (Invocation ι σ ε) → Nat)
    (inst : Instance (Journaled ι σ ε))
    (results : List (CallResult ε × Instance (Journaled ι σ ε))) : Prop :=
  recording.isCompleted (inst.after results).state = true →
    results.length + invocations inst.context.2 =
      invocations (inst.after results).context.2 + extra (inst.after results).context.2

section drives

variable {recording : Flow (Journaled ι σ ε) ε} {place : Event → ι}

theorem Balanced.cons {extra : List (Invocation ι σ ε) → Nat}
    {inst next : Instance (Journaled ι σ ε)} {answer : CallResult ε}
    {results : List (CallResult ε × Instance (Journaled ι σ ε))}
    (counted : invocations next.context.2 = invocations inst.context.2 + 1)
    (h : recording.Balanced extra next results) :
    recording.Balanced extra inst ((answer, next) :: results) := by
  intro done
  rw [Instance.after_cons] at done ⊢
  have balance := h done
  rw [List.length_cons]
  show _ + 1 + invocations inst.context.2 = _ + _
  rw [← balance, counted]
  omega

theorem Ledger.drive_balanced {extra : List (Invocation ι σ ε) → Nat}
    {Open : State → List (Invocation ι σ ε) → Prop} (ledger : recording.Ledger place extra Open)
    (runsAt : recording.RunsAt place) (h : recording.Regular)
    (enough : recording.table.length ≤ recording.config.maxIterations) (calls : Nat) :
    ∀ {state : State} {context : σ} {journal : List (Invocation ι σ ε)},
    Open state journal → (state = .empty ∨ recording.WaitsAtPlace state) →
    ¬recording.isCompleted state = true →
    recording.Balanced extra ⟨state, (context, journal)⟩
      (recording.drive true calls ⟨state, (context, journal)⟩) := by
  induction calls with
  | zero =>
    intro state context journal _ _ pending done
    exact absurd done pending
  | succ calls ih =>
    intro state context journal isOpen started pending
    have spec := runsAt.callSpec h enough started pending context journal
    rw [recording.drive_resubmitted calls pending]
    generalize recording.call ⟨state, (context, journal)⟩ = called at spec
    have done : recording.isCompleted (.ofEvents [recording.completed]) = true :=
      recording.isCompleted_singleton.mpr rfl
    cases spec with
    | @silent transition own mem fixed =>
      rw [recording.drive_of_isCompleted true calls done]
      intro _
      have one := ledger.silent isOpen own transition mem fixed
      simp only [Instance.after_cons, List.length_singleton]
      show 1 + invocations journal = invocations journal + extra journal
      omega
    | @taken transition target after failure added asks mem exclusive taken isPlace runs =>
      have counted := runs.invocations_append journal
      by_cases last : target = recording.completed
      · subst last
        rw [recording.drive_of_isCompleted true calls done]
        have none := ledger.closes isOpen transition mem exclusive asks taken runs
        intro _
        show 1 + invocations journal = invocations (journal ++ added) + extra (journal ++ added)
        omega
      · have isOpenNext := ledger.moves isOpen transition mem exclusive asks taken runs last
        have pendingNext : ¬recording.isCompleted (.ofEvents [target]) = true := by
          rw [recording.isCompleted_singleton]
          exact last
        exact .cons counted (ih isOpenNext (Or.inr ⟨target, isPlace, rfl⟩) pendingNext)
    | @failed transition cause after failure added asks mem exclusive runs =>
      have isOpenNext := ledger.fails isOpen transition mem exclusive asks runs
      exact .cons (runs.invocations_append journal) (ih isOpenNext started pending)

/-- All that can fail in a drive from the beginning are functions. -/
theorem RunsAt.drive_callable (runsAt : recording.RunsAt place) (h : recording.Regular)
    (enough : recording.table.length ≤ recording.config.maxIterations) (calls : Nat) :
    ∀ {state : State} {context : σ} {journal : List (Invocation ι σ ε)},
    (state = .empty ∨ recording.WaitsAtPlace state) →
    ∀ result ∈ recording.drive true calls ⟨state, (context, journal)⟩,
      ∀ error, result.1 = .error error → ∃ cause, error = .callable cause := by
  induction calls with
  | zero =>
    intro state context journal _ result mem
    cases mem
  | succ calls ih =>
    intro state context journal started result mem error failed
    by_cases done : recording.isCompleted state = true
    · rw [recording.drive_of_isCompleted true _ done] at mem
      cases mem
    · have spec := runsAt.callSpec h enough started done context journal
      rw [recording.drive_resubmitted calls done] at mem
      generalize recording.call ⟨state, (context, journal)⟩ = called at spec mem
      rcases List.mem_cons.mp mem with rfl | mem
      · cases spec with
        | silent own mem fixed => cases failed
        | taken asks mem exclusive taken isPlace runs => cases failed
        | failed asks mem exclusive runs =>
          cases failed
          exact ⟨_, rfl⟩
      · cases spec with
        | silent own _ fixed =>
          exact ih (Or.inr ⟨_, recording.isPlace_completed, rfl⟩) result mem error failed
        | taken asks _ exclusive taken isPlace runs =>
          exact ih (Or.inr ⟨_, isPlace, rfl⟩) result mem error failed
        | failed asks _ exclusive runs => exact ih started result mem error failed

end drives

/-! ## The roots of trees -/

section roots

variable {recording : Flow (Journaled ι σ ε) ε} {place : Event → ι}

theorem Ledger.of_not_fixed (h : ∀ transition ∈ recording.table.transitions,
      transition.target? ≠ some recording.completed) :
    recording.Ledger place (fun _ => 0) fun _ _ => True where
  opens := trivial
  silent _ _ transition mem fixed := absurd fixed (h transition mem)
  closes _ _ _ _ _ _ _ := rfl
  moves _ _ _ _ _ _ _ _ := trivial
  fails _ _ _ _ _ _ := trivial

theorem Ledger.of_not_listed (regular : recording.Regular)
    (h : ∀ transition ∈ recording.table.transitions, transition.isExclusive = true →
      recording.completed ∉ transition.destinations.map Destination.event) :
    recording.Ledger place (fun _ => 1) fun _ _ => True where
  opens := trivial
  silent _ _ _ _ _ := rfl
  closes _ transition mem exclusive _ taken _ := by
    obtain ⟨target, listed, eq⟩ := (regular.builtIn transition mem).take_ok taken
    rw [← List.head_eq_of_cons_eq eq] at listed
    exact absurd listed (h transition mem exclusive)
  moves _ _ _ _ _ _ _ _ := trivial
  fails _ _ _ _ _ _ := trivial

theorem Regular.demand_of_exclusive {flow : Flow σ ε} (h : flow.Regular)
    {transition : Transition σ ε} (mem : transition ∈ flow.table.transitions)
    (exclusive : transition.isExclusive = true) :
    flow.demand (.ofEvents [transition.source]) = .ask transition.source := by
  have found := h.lookup_source mem
  have pending : ¬flow.isCompleted (.ofEvents [transition.source]) = true := by
    rw [flow.isCompleted_singleton]
    intro eq
    exact h.completed_not_mem (eq ▸ mem_sourcesOf.mpr ⟨transition, mem, rfl⟩)
  have stop : flow.successor (.ofEvents [transition.source]) = none :=
    h.steady.successor_eq_none_iff.mpr (Or.inr (Or.inr ⟨transition, found, exclusive⟩))
  have halts : flow.haltOf (.ofEvents [transition.source]) =
      .stops (.ofEvents [transition.source]) := by
    obtain ⟨left, bound⟩ := Nat.exists_eq_add_of_lt flow.config.bound_pos
    rw [haltOf, bound]
    exact halt_stops stop
  simp only [demand, halts, if_neg pending, found]

/-- A gate is on the way when it asks its condition next, or when the condition held. -/
theorem Ledger.of_entrance [DecidableEq ι] (regular : recording.Regular)
    {condition : Callable σ ε Bool} {here : ι} {entrance : Transition (Journaled ι σ ε) ε}
    {inside : Event} (mem : entrance ∈ recording.table.transitions)
    (pending : inside ≠ recording.completed)
    (enters : entrance.Entrance (condition.recorded here none) recording.start inside
      recording.completed)
    (apart : ∀ transition ∈ recording.table.transitions, transition.isExclusive = true →
      (transition.source = recording.start ↔ place transition.source = here))
    (h : ∀ transition ∈ recording.table.transitions, transition.isExclusive = true →
      transition.source ≠ recording.start →
      recording.completed ∉ transition.destinations.map Destination.event) :
    recording.Ledger place (fun journal => if heldLast here condition journal then 1 else 0)
      fun state journal => recording.demand state = .ask recording.start ∨
        heldLast here condition journal = true := by
  have asksStart : recording.demand (.ofEvents [recording.start]) = .ask recording.start := by
    have asks := regular.demand_of_exclusive mem enters.isExclusive
    rwa [enters.source] at asks
  have unique : ∀ transition ∈ recording.table.transitions,
      transition.source = recording.start → transition = entrance := by
    intro transition memTransition source
    exact eq_of_source_eq regular.nodup memTransition mem (source.trans enters.source.symm)
  have startNe : recording.start ≠ recording.completed := by
    intro eq
    exact regular.completed_not_mem (eq ▸ regular.start_mem)
  -- The other edges run other functions, so that the condition stays as it was last asked.
  have stays : ∀ {state journal context failure added},
      (recording.demand state = .ask recording.start ∨ heldLast here condition journal = true) →
      ∀ transition ∈ recording.table.transitions, transition.isExclusive = true →
        transition.source ≠ recording.start → recording.demand state = .ask transition.source →
        RunsOnce (place transition.source) context failure added →
        heldLast here condition (journal ++ added) = true := by
    intro state journal context failure added isOpen transition memTransition exclusive source
      asks runs
    have elsewhere := mt (apart transition memTransition exclusive).mpr source
    rcases isOpen with asksHere | held
    · rw [asks] at asksHere
      exact absurd (Demand.ask.inj asksHere) source
    · rw [runs.heldLast_append_of_ne elsewhere, held]
  exact {
    opens := Or.inl asksStart
    silent := by
      intro state journal isOpen own _ _ _
      rcases isOpen with asks | held
      · exact absurd asks (own _)
      · rw [if_pos held]
    closes := by
      -- Only the entrance leads to the completion, and only when the condition does not hold.
      intro state journal context after failure added _ transition memTransition exclusive asks
        taken runs
      by_cases source : transition.source = recording.start
      · rw [(apart transition memTransition exclusive).mp source] at runs
        obtain rfl := unique transition memTransition source
        rcases enters.take_ok taken with ⟨eq, _⟩ | ⟨_, answered⟩ | eq
        · exact absurd eq.symm pending
        · rw [runs.heldLast_append condition journal answered]
          rfl
        · exact absurd eq.symm startNe
      · obtain ⟨target, listed, eq⟩ := (regular.builtIn transition memTransition).take_ok taken
        rw [← List.head_eq_of_cons_eq eq] at listed
        exact absurd listed (h transition memTransition exclusive source)
    moves := by
      intro state journal context target after failure added isOpen transition memTransition
        exclusive asks taken runs goesOn
      by_cases source : transition.source = recording.start
      · rw [(apart transition memTransition exclusive).mp source] at runs
        obtain rfl := unique transition memTransition source
        rcases enters.take_ok taken with ⟨_, answered⟩ | ⟨eq, _⟩ | rfl
        · exact Or.inr (runs.heldLast_append condition journal answered)
        · exact absurd eq goesOn
        · exact Or.inl asksStart
      · exact Or.inr (stays isOpen transition memTransition exclusive source asks runs)
    fails := by
      -- A failed call asks again what it asked, so the condition is still asked next if it was.
      intro state journal context failure added isOpen transition memTransition exclusive asks runs
      by_cases source : transition.source = recording.start
      · rw [source] at asks
        exact Or.inl asks
      · exact Or.inr (stays isOpen transition memTransition exclusive source asks runs) }

end roots

end Flow

theorem Compiled.WellFormed.source_ne_start {scope : Scope} {child : Compiled σ ε}
    (h : child.WellFormed (some scope)) {transition : Transition σ ε}
    (mem : transition ∈ child.transitions) : transition.source ≠ scope.start := by
  intro eq
  have inside := h.source_enclosed _ (mem_sourcesOf.mpr ⟨transition, mem, eq⟩)
  rw [h.scope_eq.2] at inside
  exact scope.not_within_encloses_path _ inside

namespace Item

/-- If the root at the address `here` is a gate, seen through retries, the place is that of its
condition just for the edge that leaves the start. -/
def Apart (start source : Event) (place : List Nat) : (here : List Nat) → Item σ ε → Prop
  | here, gate _ _ _ => source = start ↔ place = here
  | here, retry body _ => body.Apart start source place (here ++ [0])
  | _, activity _ _ | _, steps _ _ | _, loopUntil _ _ _ | _, waitFor _ _ | _, custom _ _ => True

theorem exists_runsAt_of_compile (item : Item σ ε) (here : List Nat) {parent : Option Scope}
    {compiled : Compiled (Journaled (List Nat) σ ε) ε} (builtIn : item.isBuiltIn = true)
    (compiles : (item.recorded here).compile parent = .ok compiled) :
    ∀ transition ∈ compiled.transitions, transition.isExclusive = true →
      ∃ address, transition.RunsAt (here ++ address) := by
  intro transition mem exclusive
  have builtInRecorded := (item.isBuiltIn_recorded here).trans builtIn
  obtain ⟨address, _, _, _, runs⟩ :=
    (emits_of_compile builtInRecorded compiles transition mem exclusive).runsAt
  exact ⟨address, runs⟩

theorem apart_of_compile : ∀ (item : Item σ ε) (here : List Nat) {parent : Option Scope}
    {compiled : Compiled (Journaled (List Nat) σ ε) ε}, item.isBuiltIn = true →
    (item.recorded here).compile parent = .ok compiled →
    ∀ transition ∈ compiled.transitions, transition.isExclusive = true → ∃ place,
      transition.RunsAt place ∧
        item.Apart compiled.scope.start transition.source place here
  | gate name body condition, here, parent, _, builtIn, compiles => by
    have builtInBody : body.isBuiltIn = true := builtIn
    obtain ⟨_, inner, compilesBody, rfl⟩ := compile_gate_eq_ok_iff.mp compiles
    have wellFormed := wellFormed_of_isBuiltIn
      ((body.isBuiltIn_recorded (here ++ [0])).trans builtInBody) compilesBody
    intro transition mem exclusive
    rcases List.mem_cons.mp mem with rfl | mem
    · exact ⟨here, Transition.runsAt_chosen _ _ here condition _, iff_of_true rfl rfl⟩
    rcases List.mem_cons.mp mem with rfl | mem
    · cases exclusive
    · obtain ⟨address, runs⟩ := body.exists_runsAt_of_compile (here ++ [0]) builtInBody compilesBody
        transition mem exclusive
      refine ⟨_, runs, iff_of_false (wellFormed.source_ne_start mem) ?_⟩
      rw [List.append_assoc]
      simp
  | retry body handler, here, _, _, builtIn, compiles => by
    obtain ⟨inner, compilesBody, rfl⟩ := compile_retry_eq_ok_iff.mp compiles
    intro transition mem exclusive
    obtain ⟨wrapped, inBody, rfl⟩ := List.mem_map.mp mem
    obtain ⟨place, runs, apart⟩ :=
      body.apart_of_compile (here ++ [0]) builtIn compilesBody wrapped inBody exclusive
    exact ⟨place, runs.guarded _ here handler, apart⟩
  | activity _ _, here, _, _, builtIn, compiles
  | steps _ _, here, _, _, builtIn, compiles
  | loopUntil _ _ _, here, _, _, builtIn, compiles
  | waitFor _ _, here, _, _, builtIn, compiles => by
    intro transition mem exclusive
    obtain ⟨address, runs⟩ :=
      exists_runsAt_of_compile _ here builtIn compiles transition mem exclusive
    exact ⟨here ++ address, runs, trivial⟩
  | custom _ _, _, _, _, builtIn, _ => by cases builtIn

/-- The ledger of a tree, by its root. -/
theorem exists_ledger {recording : Flow (Journaled (List Nat) σ ε) ε} {place : Event → List Nat}
    (regular : recording.Regular) : ∀ {root : Item σ ε} {here : List Nat},
    (root.recorded here).Exits recording.scope recording.table.transitions →
    (∀ transition ∈ recording.table.transitions, transition.isExclusive = true →
      root.Apart recording.start transition.source (place transition.source) here) →
    ∃ Open, recording.Ledger place (fun journal => root.silentCalls here journal) Open
  | .activity _ _, _, exits, _ => ⟨_, .of_not_fixed exits⟩
  | .loopUntil _ _ _, _, exits, _ => ⟨_, .of_not_fixed exits⟩
  | .waitFor _ _, _, exits, _ => ⟨_, .of_not_fixed exits⟩
  | .custom _ _, _, exits, _ => ⟨_, .of_not_fixed exits⟩
  | .steps _ _, _, exits, _ => ⟨_, .of_not_listed regular exits⟩
  | .gate _ _ _, _, ⟨⟨_, mem, _, pending, enters⟩, exits⟩, apart =>
    ⟨_, .of_entrance regular mem pending enters apart exits⟩
  | .retry body _, here, exits, apart => (exists_ledger regular exits apart :
    ∃ Open, recording.Ledger place (fun journal => body.silentCalls (here ++ [0]) journal) Open)

theorem exists_ledger_of_compile {root : Item σ ε} {config : Config}
    {recording : Flow (Journaled (List Nat) σ ε) ε} (builtIn : root.isBuiltIn = true)
    (compiles : Flow.compile (root.recorded []) config = .ok recording)
    (regular : recording.Regular) : ∃ place : Event → List Nat, recording.RunsAt place ∧
      ∃ Open, recording.Ledger place (fun journal => root.silentCalls [] journal) Open := by
  obtain ⟨compiled, compilesRoot, rfl⟩ := Flow.compile_eq_ok_iff.mp compiles
  obtain ⟨place, property⟩ := regular.exists_place (root.apart_of_compile [] builtIn compilesRoot)
  have exits := exits_of_compile (root.recorded [])
    ((root.isBuiltIn_recorded []).trans builtIn) compilesRoot
  refine ⟨place, fun transition mem exclusive => (property transition mem exclusive).1, ?_⟩
  exact exists_ledger regular exits fun transition mem exclusive =>
    (property transition mem exclusive).2

end Item

/-- The instance without its journal. -/
def Instance.forget (inst : Instance (Journaled ι σ ε)) : Instance σ :=
  ⟨inst.state, inst.context.1⟩

theorem Flow.Mirrors.drive {recorded : Flow (Journaled ι σ ε) ε} {plain : Flow σ ε}
    (h : recorded.Mirrors plain) (resubmit : Bool) (calls : Nat) :
    ∀ inst : Instance (Journaled ι σ ε),
    (recorded.drive resubmit calls inst).map (Prod.map id Instance.forget) =
      plain.drive resubmit calls inst.forget := by
  induction calls with
  | zero =>
    intro inst
    rfl
  | succ calls ih =>
    rintro ⟨state, context, journal⟩
    show _ = plain.drive resubmit (calls + 1) ⟨state, context⟩
    by_cases done : plain.isCompleted state = true
    · have doneRecorded : recorded.isCompleted state = true := (h.isCompleted state).trans done
      rw [plain.drive_of_isCompleted resubmit _ done,
        recorded.drive_of_isCompleted resubmit _ doneRecorded]
      rfl
    · have pendingRecorded : ¬recorded.isCompleted state = true :=
        mt (h.isCompleted state).symm.trans done
      obtain ⟨added, eq⟩ := h.call state context journal
      rw [Flow.drive, if_neg pendingRecorded, eq, Flow.drive, if_neg done]
      rcases plain.call ⟨state, context⟩ with ⟨error | answer, next⟩
      · cases resubmit
        · rfl
        · exact congrArg _ (ih _)
      · exact congrArg _ (ih _)

/-- The calls of a run to completion, failed ones included, are as many as the activities and
conditions it invoked together with the silent call that the root of the tree may need. -/
theorem drive_length_of_compile {root : Item σ ε} {config : Config} {flow : Flow σ ε}
    (builtIn : root.isBuiltIn = true) (compiles : Flow.compile root config = .ok flow)
    (enough : flow.table.length ≤ config.maxIterations) (calls : Nat) (context : σ) :
    ∃ recording, Flow.compile (root.recorded []) config = .ok recording ∧
      let inst : Instance (Journaled (List Nat) σ ε) := ⟨.empty, (context, [])⟩
      let results := recording.drive true calls inst
      let last := inst.after results
      results.map (Prod.map id Instance.forget) = flow.drive true calls ⟨.empty, context⟩ ∧
        (∀ result ∈ results, ∀ error, result.1 = .error error →
          ∃ cause, error = .callable cause) ∧
        (flow.isCompleted last.state = true → (flow.drive true calls ⟨.empty, context⟩).length =
          invocations last.context.2 + root.silentCalls [] last.context.2) := by
  obtain ⟨recording, compilesRecording, mirrors, regular⟩ :=
    Flow.exists_recording builtIn compiles
  have enoughOwn : recording.table.length ≤ recording.config.maxIterations := by
    have sameLength : recording.table.length = flow.table.length := mirrors.transitions.length_eq
    have sameConfig : flow.config = config := by
      obtain ⟨_, _, rfl⟩ := Flow.compile_eq_ok_iff.mp compiles
      rfl
    rw [sameLength, mirrors.config, sameConfig]
    exact enough
  refine ⟨recording, compilesRecording, ?_⟩
  intro inst results last
  have forgets : results.map (Prod.map id Instance.forget) =
      flow.drive true calls ⟨.empty, context⟩ := mirrors.drive true calls inst
  obtain ⟨place, runsAt, Open, ledger⟩ :=
    Item.exists_ledger_of_compile builtIn compilesRecording regular
  refine ⟨forgets, runsAt.drive_callable regular enoughOwn calls (Or.inl rfl), fun done => ?_⟩
  have balance := ledger.drive_balanced runsAt regular enoughOwn calls ledger.opens (Or.inl rfl)
    recording.not_isCompleted_empty ((mirrors.isCompleted last.state).trans done)
  rw [← forgets, List.length_map]
  exact balance

/-- The deployment invokes thirteen functions that are not handlers, and is completed by a
fourteenth call. -/
theorem drive_length_of_compile_deployment : ∃ flow, Deployment.flow {} = .ok flow ∧
    flow.table.length ≤ 100 ∧ (flow.drive true 20 ⟨.empty, {}⟩).length = 14 := by
  obtain ⟨flow, compiles⟩ : ∃ flow, Deployment.flow {} = .ok flow := ⟨_, rfl⟩
  have builtIn : Deployment.item.isBuiltIn = true := rfl
  have enough : flow.table.length ≤ ({} : Config).maxIterations := by
    rw [← Except.ok.inj compiles]
    decide
  obtain ⟨recording, compilesRecording, _, _, counts⟩ :=
    drive_length_of_compile builtIn compiles enough 20 {}
  let inst : Instance (Journaled (List Nat) Deployment String) := ⟨.empty, ({}, [])⟩
  have done : flow.isCompleted (inst.after (recording.drive true 20 inst)).state = true := by
    rw [← Except.ok.inj compiles, ← Except.ok.inj compilesRecording]
    decide +kernel
  have invoked : invocations (inst.after (recording.drive true 20 inst)).context.2 = 13 := by
    rw [← Except.ok.inj compilesRecording]
    decide +kernel
  refine ⟨flow, compiles, enough, ?_⟩
  rw [counts done, invoked]
  rfl

end ResumableFlow
