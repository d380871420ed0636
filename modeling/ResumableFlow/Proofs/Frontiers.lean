import ResumableFlow.Proofs.Calls
import ResumableFlow.Proofs.Resuming
import ResumableFlow.Proofs.Stretches

/-!
# Frontiers with several events

A state may wait at several events, and may hold texts that are no events of the flow. A call from
it depends on one of them alone: the first that a transition leaves (`Flow.apply_of_leaves`). The
lookup passes over the texts before it and does not come to those behind it.

The other texts stay in the frontier that the call has begun at, and so among the frontiers that it
compares later ones with. That makes no difference where no frontier comes back: two walks from one
frontier that find no cycle are the same, whatever each of them has seen before
(`Flow.walk_congr_seen`).
-/

namespace ResumableFlow

variable {σ ε : Type}

/-! ## Lookups -/

/-- The text is the id of an event that a transition leaves. -/
def Flow.Leaves (flow : Flow σ ε) (text : String) : Prop :=
  ∃ event ∈ sourcesOf flow.table.transitions, event.id = text

namespace Table

variable {transitions : List (Transition σ ε)} {text : String}

theorem get?_eq_none_iff :
    (ofList transitions).get? text = none ↔ ¬∃ event ∈ sourcesOf transitions, event.id = text := by
  simp only [get?_ofList, List.find?_eq_none, decide_eq_true_eq, mem_sourcesOf, not_exists, not_and]
  constructor
  · rintro passed event ⟨transition, mem, rfl⟩
    exact passed transition mem
  · exact fun passed transition mem => passed transition.source ⟨transition, mem, rfl⟩

/-- The first text with a transition decides. -/
theorem lookup_of_first {table : Table σ ε} {before : List String}
    (passed : ∀ other ∈ before, table.get? other = none) {transition : Transition σ ε}
    (found : table.get? text = some transition) (behind : List String) :
    table.lookup ⟨before ++ [text] ++ behind⟩ = some transition := by
  have none : before.findSome? table.get? = none := List.findSome?_eq_none_iff.mpr passed
  rw [lookup, List.append_assoc, List.findSome?_append, none, Option.none_or,
    List.singleton_append, List.findSome?_cons_of_isSome (by rw [found]; rfl), found]

end Table

namespace Flow

/-! ## Walks that find no cycle -/

theorem step_eq_of_lookup {flow : Flow σ ε} {a b : State} {transition : Transition σ ε}
    (pendingA : ¬flow.isCompleted a = true) (foundA : flow.table.lookup a = some transition)
    (pendingB : ¬flow.isCompleted b = true) (foundB : flow.table.lookup b = some transition) :
    flow.step a = flow.step b := by
  funext context
  simp only [step, if_neg pendingA, if_neg pendingB, foundA, foundB]

section congr

variable {flow : Flow σ ε}

/-- What was seen before tells two walks apart only where one of them finds a cycle. -/
theorem walk_congr_seen {left : Nat} {seen seen' : List State} {frontier : State} {context : σ}
    (acyclic : ∀ next, (flow.walk left seen frontier context).1 ≠ .cyclic next)
    (acyclic' : ∀ next, (flow.walk left seen' frontier context).1 ≠ .cyclic next) :
    flow.walk left seen frontier context = flow.walk left seen' frontier context := by
  rw [← flow.walk_of_subset left (List.nil_subset seen) acyclic,
    ← flow.walk_of_subset left (List.nil_subset seen') acyclic']

/-- Calls that begin with the same step end alike, if neither of them finds a cycle. -/
theorem ending_congr {a b : State} {context : σ} (same : flow.step (flow.entry a) context =
      flow.step (flow.entry b) context)
    (acyclicA : ∀ next, (flow.ending a context).1 ≠ .cyclic next)
    (acyclicB : ∀ next, (flow.ending b context).1 ≠ .cyclic next) :
    flow.ending a context = flow.ending b context := by
  obtain ⟨left, bound⟩ : ∃ left, flow.config.bound = left + 1 :=
    Nat.exists_eq_add_one_of_ne_zero flow.config.bound_pos.ne'
  rw [ending, bound] at acyclicA acyclicB ⊢
  rw [ending, bound]
  rcases stepped : flow.step (flow.entry b) context with ⟨ending | next, after⟩ <;>
    rw [stepped] at same
  · rw [walk_ends same, walk_ends stepped]
  · have freshA : next ∉ [flow.entry a] := fun repeated =>
      acyclicA next (congrArg Prod.fst (walk_repeats same repeated))
    have freshB : next ∉ [flow.entry b] := fun repeated =>
      acyclicB next (congrArg Prod.fst (walk_repeats stepped repeated))
    rw [walk_passes same freshA] at acyclicA ⊢
    rw [walk_passes stepped freshB] at acyclicB ⊢
    exact walk_congr_seen acyclicA acyclicB

end congr

namespace Regular

variable {flow : Flow σ ε}

theorem not_cyclic (h : flow.Regular) (state : State) (context : σ) (next : State) :
    (flow.ending state context).1 ≠ .cyclic next := by
  intro cyclic
  have sound := h.ending_sound state context
  rw [cyclic] at sound
  exact sound

/-- A recorded call ends as the plain one does. -/
theorem recorded_not_cyclic (h : flow.Regular) (state : State)
    (start : Journaled (Event × Nat) σ ε) (next : State) :
    (flow.recorded.ending state start).1 ≠ .cyclic next := by
  obtain ⟨added, eq⟩ := (Mirrors.recorded h.table).ending state start.1 start.2
  rw [eq]
  exact h.not_cyclic state start.1 next

theorem leaves_not_completed (h : flow.Regular) {text : String} (leaves : flow.Leaves text)
    {state : State} (waits : text ∈ state.events) : ¬flow.isCompleted state = true := by
  rw [flow.isCompleted_iff]
  rintro rfl
  obtain ⟨event, mem, rfl⟩ := leaves
  have same : event.id = flow.completed.id := List.mem_singleton.mp waits
  exact h.completed_not_mem (Event.id_injective same ▸ mem)

/-- A state that waits at a source is followed as its first source is. -/
theorem exists_lookup (h : flow.Regular) {text : String} (leaves : flow.Leaves text)
    {before : List String} (passed : ∀ other ∈ before, ¬flow.Leaves other) :
    ∃ transition, ∀ behind,
      flow.table.lookup ⟨before ++ [text] ++ behind⟩ = some transition ∧
        flow.table.lookup ⟨[text]⟩ = some transition := by
  have none_iff : ∀ text, flow.table.get? text = none ↔ ¬flow.Leaves text := by
    intro text
    rw [h.table]
    exact Table.get?_eq_none_iff
  obtain ⟨transition, found⟩ : ∃ transition, flow.table.get? text = some transition := by
    rw [← Option.ne_none_iff_exists']
    exact fun none => (none_iff text).mp none leaves
  have free : ∀ other ∈ before, flow.table.get? other = none :=
    fun other mem => (none_iff other).mpr (passed other mem)
  have none : ∀ other ∈ ([] : List String), flow.table.get? other = none := nofun
  exact ⟨transition, fun behind =>
    ⟨Table.lookup_of_first free found behind, Table.lookup_of_first none found []⟩⟩

end Regular

/-! ## Calls -/

/-- A call goes by the first text of the state that is the id of a source. From that text alone it
has the same answer, invokes the same functions in the same order and leaves the same context. -/
theorem apply_of_leaves {root : Item σ ε} {config : Config} {flow : Flow σ ε}
    (builtIn : root.isBuiltIn = true) (compiles : Flow.compile root config = .ok flow)
    {text : String} (leaves : flow.Leaves text) {before : List String}
    (passed : ∀ other ∈ before, ¬flow.Leaves other) (behind : List String) :
    flow.apply ⟨before ++ [text] ++ behind⟩ = flow.apply ⟨[text]⟩ ∧
      flow.recorded.apply ⟨before ++ [text] ++ behind⟩ = flow.recorded.apply ⟨[text]⟩ := by
  have h := regular_of_compile builtIn compiles
  obtain ⟨transition, looked⟩ := h.exists_lookup leaves passed
  obtain ⟨found, foundAlone⟩ := looked behind
  have pending : ¬flow.isCompleted ⟨before ++ [text] ++ behind⟩ = true :=
    h.leaves_not_completed leaves (by simp)
  have pendingAlone : ¬flow.isCompleted ⟨[text]⟩ = true :=
    h.leaves_not_completed leaves List.mem_cons_self
  have started : (⟨before ++ [text] ++ behind⟩ : State) ≠ .empty := by simp [State.empty]
  have startedAlone : (⟨[text]⟩ : State) ≠ .empty := by simp [State.empty]
  constructor
  · have same := step_eq_of_lookup pending found pendingAlone foundAlone
    rw [← flow.entry_of_ne_empty started, ← flow.entry_of_ne_empty startedAlone] at same
    funext context
    have ended := ending_congr (congrFun same context) (h.not_cyclic _ context)
      (h.not_cyclic _ context)
    simp only [apply, ended]
  · have foundRecorded := flow.lookup_recorded h.table ⟨before ++ [text] ++ behind⟩
    have foundRecordedAlone := flow.lookup_recorded h.table ⟨[text]⟩
    rw [found] at foundRecorded
    rw [foundAlone] at foundRecordedAlone
    have same : flow.recorded.step ⟨before ++ [text] ++ behind⟩ = flow.recorded.step ⟨[text]⟩ :=
      step_eq_of_lookup pending foundRecorded pendingAlone foundRecordedAlone
    rw [← flow.recorded.entry_of_ne_empty started,
      ← flow.recorded.entry_of_ne_empty startedAlone] at same
    funext start
    have ended := ending_congr (congrFun same start) (h.recorded_not_cyclic _ start)
      (h.recorded_not_cyclic _ start)
    simp only [apply, ended]

/-- A deployment at the end of its uploads, with a note before that event
and two sources behind it. -/
theorem apply_of_leaves_deployment : ∃ flow, Deployment.flow ⟨2, .fail⟩ = .ok flow ∧
    flow.Leaves "completed:deploy/upload/put" ∧ ¬flow.Leaves "completed:deploy" ∧
    flow.apply ⟨["completed:deploy"] ++ ["completed:deploy/upload/put"] ++
        ["start:deploy/drain", "start:deploy"]⟩ =
      flow.apply ⟨["completed:deploy/upload/put"]⟩ ∧
    flow.recorded.apply ⟨["completed:deploy"] ++ ["completed:deploy/upload/put"] ++
        ["start:deploy/drain", "start:deploy"]⟩ =
      flow.recorded.apply ⟨["completed:deploy/upload/put"]⟩ := by
  obtain ⟨flow, compiles⟩ : ∃ flow, Deployment.flow ⟨2, .fail⟩ = .ok flow := ⟨_, rfl⟩
  have builtIn : Deployment.item.isBuiltIn = true := rfl
  have leaves : flow.Leaves "completed:deploy/upload/put" := by
    rw [← Except.ok.inj compiles]
    exact ⟨⟨.completed, "deploy/upload/put"⟩, by decide, rfl⟩
  have final : ¬flow.Leaves "completed:deploy" := by
    rintro ⟨event, mem, same⟩
    have isCompleted : event = flow.completed := by
      apply Event.id_injective
      rw [same, ← Except.ok.inj compiles]
      rfl
    exact (regular_of_compile builtIn compiles).completed_not_mem (isCompleted ▸ mem)
  have passed : ∀ other ∈ ["completed:deploy"], ¬flow.Leaves other := by
    intro other mem
    rw [List.mem_singleton.mp mem]
    exact final
  exact ⟨flow, compiles, leaves, final, apply_of_leaves builtIn compiles leaves passed _⟩

end Flow

end ResumableFlow
