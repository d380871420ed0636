import ResumableFlow.Proofs.Demands
import ResumableFlow.Rehearsal.Sketch

/-!
# Retries that are granted

An edge that fails under a handler that agrees leads back to the start of the retried item. If the
edge is exclusive, the call returns that start. If it is not, the call goes on from there, but only
where it has not been there before: a frontier that a call comes to a second time is taken for a
cycle of silent edges, also when a function has failed in between (`Flow.Granted.restarts`).

The library's own items have no silent edge that can fail (`Item.exclusive_of_fails`), so that no
restart within them is mistaken for a cycle. A restart of an item of the caller can be.
-/

namespace ResumableFlow

variable {σ ε : Type}

/-! ## Edges that are granted a restart -/

namespace Transition

/-- Taking the edge on the context fails under a handler that agrees to start again at `restart`. -/
inductive Grants : Transition σ ε → Event → σ → σ → Prop
  | agrees {inner : Transition σ ε} {handler : Handler σ ε} {context between after : σ} {cause : ε}
    (restart : Event) (fails : inner.take context = (.error cause, between))
    (agrees : handler cause between = (.ok true, after)) :
    Grants (.guarded inner restart handler) restart context after
  | under {inner : Transition σ ε} {restart : Event} {context after : σ} (outer : Event)
    (handler : Handler σ ε) (granted : Grants inner restart context after) :
    Grants (.guarded inner outer handler) restart context after

theorem under_append (transition : Transition σ ε) (inner outer : List (Guard σ ε)) :
    transition.under (inner ++ outer) = (transition.under inner).under outer :=
  List.foldl_append

variable {transition : Transition σ ε} {restart : Event} {context after : σ}

theorem Grants.take (h : transition.Grants restart context after) :
    transition.take context = (.ok [restart], after) := by
  induction h with
  | agrees restart fails agrees => simp only [Transition.take, Callable.guard, fails, agrees]
  | under outer handler _ ih => simp only [Transition.take, Callable.guard, ih]

/-- The handlers around one that agrees are not asked. -/
theorem Grants.underAll (h : transition.Grants restart context after) (guards : List (Guard σ ε)) :
    (transition.under guards).Grants restart context after := by
  induction guards generalizing transition with
  | nil => exact h
  | cons guard guards ih => exact ih (.under guard.restart guard.handler h)

end Transition

/-! ## Where the edges of an item lie -/

namespace Item

theorem exists_compile_of_getElem? : ∀ {items : List (Item σ ε)} {scope : Scope}
    {taken : List String} {last : Event} {transitions : List (Transition σ ε)} {position : Nat}
    {child : Item σ ε}, compileSteps scope taken last items = .ok transitions →
    items[position]? = some child → ∃ inner, child.compile (some scope) = .ok inner ∧
      inner.transitions ⊆ transitions
  | [], _, _, _, _, _, _, _, there => by cases there
  | item :: items, scope, taken, last, transitions, position, child, compiles, there => by
    obtain ⟨first, compilesFirst, _, following, compilesRest, rfl⟩ :=
      compileSteps_cons_eq_ok_iff.mp compiles
    cases position with
    | zero =>
      obtain rfl := Option.some.inj there
      refine ⟨first, compilesFirst, fun transition mem => ?_⟩
      exact List.mem_cons_of_mem _ (List.mem_append_left _ mem)
    | succ position =>
      obtain ⟨inner, compilesChild, subset⟩ := exists_compile_of_getElem? compilesRest there
      refine ⟨inner, compilesChild, fun transition mem => ?_⟩
      exact List.mem_cons_of_mem _ (List.mem_append_right _ (subset mem))

/-- What is in an item compiles along with it, and only a retry puts its edges under a handler. -/
theorem exists_compile_of_child? {item child : Item σ ε} {parent : Option Scope}
    {compiled : Compiled σ ε} {position : Nat} (compiles : item.compile parent = .ok compiled)
    (there : item.child? position = some child) : ∃ scope inner around,
      child.compile scope = .ok inner ∧
        ∀ transition ∈ inner.transitions, transition.under around ∈ compiled.transitions := by
  cases item with
  | activity name run => cases there
  | waitFor name condition => cases there
  | custom name compile => cases there
  | steps name items =>
    obtain ⟨_, transitions, compilesSteps, rfl⟩ := compile_steps_eq_ok_iff.mp compiles
    obtain ⟨inner, compilesChild, subset⟩ := exists_compile_of_getElem? compilesSteps there
    exact ⟨_, inner, [], compilesChild, fun _ mem => subset mem⟩
  | gate name body condition =>
    obtain ⟨_, inner, compilesBody, rfl⟩ := compile_gate_eq_ok_iff.mp compiles
    obtain _ | position := position
    · obtain rfl := Option.some.inj there
      exact ⟨_, inner, [], compilesBody, fun _ mem => .tail _ (.tail _ mem)⟩
    · cases there
  | loopUntil name body condition =>
    obtain ⟨_, inner, compilesBody, rfl⟩ := compile_loopUntil_eq_ok_iff.mp compiles
    obtain _ | position := position
    · obtain rfl := Option.some.inj there
      exact ⟨_, inner, [], compilesBody, fun _ mem => .tail _ (.tail _ mem)⟩
    · cases there
  | retry body handler =>
    obtain ⟨inner, compilesBody, rfl⟩ := compile_retry_eq_ok_iff.mp compiles
    obtain _ | position := position
    · obtain rfl := Option.some.inj there
      exact ⟨_, inner, [⟨inner.scope.start, handler⟩], compilesBody,
        fun _ mem => List.mem_map_of_mem mem⟩
    · cases there

/-- The edges of an item of the tree are edges of the tree, under the handlers around the item. -/
theorem exists_compile_of_at? : ∀ (address : List Nat) {item owner : Item σ ε}
    {parent : Option Scope} {compiled : Compiled σ ε}, item.compile parent = .ok compiled →
    item.at? address = some owner → ∃ scope inner around, owner.compile scope = .ok inner ∧
      ∀ transition ∈ inner.transitions, transition.under around ∈ compiled.transitions
  | [], item, owner, parent, compiled, compiles, found => by
    obtain rfl := Option.some.inj found
    exact ⟨parent, compiled, [], compiles, fun _ mem => mem⟩
  | position :: address, item, owner, parent, compiled, compiles, found => by
    obtain ⟨child, there, below⟩ := Option.bind_eq_some_iff.mp found
    obtain ⟨scope, middle, outer, compilesChild, edges⟩ := exists_compile_of_child? compiles there
    obtain ⟨scope, inner, around, compilesOwner, edgesBelow⟩ :=
      exists_compile_of_at? address compilesChild below
    refine ⟨scope, inner, around ++ outer, compilesOwner, fun transition mem => ?_⟩
    rw [Transition.under_append]
    exact edges _ (edgesBelow transition mem)

/-- What a retry of the tree compiles to: `inner` is the compilation of the item in it, and `around`
are the handlers that the retry lies under. -/
structure RetryCompiles (root : Item σ ε) (address : List Nat) (child : Item σ ε)
    (handler : Handler σ ε) (transitions : List (Transition σ ε)) (inner : Compiled σ ε)
    (around : List (Guard σ ε)) : Prop where
  found : root.at? address = some (.retry child handler)
  compiles : ∃ scope, child.compile scope = .ok inner
  edges : ∀ transition ∈ inner.transitions,
    (transition.guarded inner.scope.start handler).under around ∈ transitions

theorem exists_retryCompiles {root child : Item σ ε} {handler : Handler σ ε} {parent : Option Scope}
    {compiled : Compiled σ ε} {address : List Nat} (compiles : root.compile parent = .ok compiled)
    (found : root.at? address = some (.retry child handler)) :
    ∃ inner around, root.RetryCompiles address child handler compiled.transitions inner around := by
  obtain ⟨scope, retried, around, compilesRetry, edges⟩ :=
    exists_compile_of_at? address compiles found
  obtain ⟨inner, compilesChild, rfl⟩ := compile_retry_eq_ok_iff.mp compilesRetry
  exact ⟨inner, around, found, ⟨scope, compilesChild⟩,
    fun transition mem => edges _ (List.mem_map_of_mem mem)⟩

/-- Only an exclusive edge of the library's own items can fail. -/
theorem exclusive_of_fails {child : Item σ ε} {parent : Option Scope} {inner : Compiled σ ε}
    (builtIn : child.isBuiltIn = true) (compiles : child.compile parent = .ok inner)
    {transition : Transition σ ε} (mem : transition ∈ inner.transitions) {context between : σ}
    {cause : ε} (fails : transition.take context = (.error cause, between)) :
    transition.isExclusive = true := by
  by_contra silent
  obtain ⟨target, fixed, _⟩ := (builtIn_of_compile builtIn compiles transition mem).target_of_silent
    (Bool.eq_false_iff.mpr silent)
  rw [Transition.take_of_target? fixed] at fails
  cases fails

end Item

/-! ## Calls up to a frontier -/

namespace Flow

/-- The call on the state and the context `start` comes to the frontier with this context, after the
`earlier` frontiers, and may take `left` more transitions. -/
inductive Arrives (flow : Flow σ ε) (state : State) (start : σ) :
    (left : Nat) → (earlier : List State) → (frontier : State) → (context : σ) → Prop
  | entry : Arrives flow state start flow.config.bound [] (flow.entry state) start
  | pass {left : Nat} {earlier : List State} {frontier next : State} {context after : σ}
    (before : Arrives flow state start (left + 1) earlier frontier context)
    (passes : flow.step frontier context = (.passes next, after))
    (fresh : next ∉ frontier :: earlier) :
    Arrives flow state start left (frontier :: earlier) next after

theorem Arrives.ending_eq {flow : Flow σ ε} {state frontier : State} {start context : σ}
    {left : Nat} {earlier : List State}
    (h : flow.Arrives state start left earlier frontier context) :
    flow.ending state start = flow.walk left (frontier :: earlier) frontier context := by
  induction h with
  | entry => rfl
  | pass _ passes fresh ih => rw [ih, walk_passes passes fresh]

/-- At the frontier that the call comes to, an edge fails and a handler agrees to start again at
`restart`. -/
structure Granted (flow : Flow σ ε) (state : State) (start : σ) (left : Nat) (earlier : List State)
    (frontier : State) (transition : Transition σ ε) (restart : Event) (after : σ) : Prop where
  arrives : ∃ context, flow.Arrives state start (left + 1) earlier frontier context ∧
    transition.Grants restart context after
  pending : ¬flow.isCompleted frontier = true
  found : flow.table.lookup frontier = some transition

/-- What comes of it: a restart of an exclusive edge is returned, and from that of a silent edge the
call goes on, unless it has been there before. -/
structure Restarts (flow : Flow σ ε) (state : State) (start : σ) (left : Nat) (earlier : List State)
    (frontier : State) (exclusive : Bool) (restart : Event) (after : σ) : Prop where
  returned : exclusive = true → flow.apply state start = (.ok (.ofEvents [restart]), after)
  carried_on : exclusive = false → .ofEvents [restart] ∉ frontier :: earlier →
    flow.Arrives state start left (frontier :: earlier) (.ofEvents [restart]) after
  cyclic : exclusive = false → .ofEvents [restart] ∈ frontier :: earlier →
    flow.apply state start = (.error (.staticCycle (.ofEvents [restart])), after)

theorem Granted.restarts {flow : Flow σ ε} {state frontier : State} {start after : σ} {left : Nat}
    {earlier : List State} {transition : Transition σ ε} {restart : Event}
    (h : flow.Granted state start left earlier frontier transition restart after) :
    flow.Restarts state start left earlier frontier transition.isExclusive restart after := by
  obtain ⟨context, arrives, grants⟩ := h.arrives
  have passes : transition.isExclusive = false →
      flow.step frontier context = (.passes (.ofEvents [restart]), after) := by
    intro silent
    rw [step, if_neg h.pending, h.found]
    simp only [grants.take, silent, Bool.false_eq_true, if_false]
  refine ⟨fun exclusive => ?_, fun silent fresh => ?_, fun silent repeated => ?_⟩
  · have ended := arrives.ending_eq
    rw [walk_ends (flow.step_exclusive h.pending h.found exclusive context), grants.take] at ended
    simp only [apply, ended, Ending.ofTake, Ending.answer]
  · exact .pass arrives (passes silent) fresh
  · have ended := arrives.ending_eq
    rw [walk_repeats (passes silent) repeated] at ended
    simp only [apply, ended, Ending.answer]

end Flow

/-! ## Retries of a tree -/

/-- The retry restarts what is in it: an edge of it that fails, with the handler agreeing, leads
back to its start. If it is of the library's own kinds, the edge is exclusive. -/
structure Item.RestartsChild (child : Item σ ε) (handler : Handler σ ε) (inner : Compiled σ ε)
    (around : List (Guard σ ε)) : Prop where
  grants : ∀ transition ∈ inner.transitions, ∀ context cause between after,
    transition.take context = (.error cause, between) → handler cause between = (.ok true, after) →
      ((transition.guarded inner.scope.start handler).under around).Grants inner.scope.start
        context after
  exclusive : child.isBuiltIn = true → ∀ transition ∈ inner.transitions, ∀ context cause between,
    transition.take context = (.error cause, between) → transition.isExclusive = true

/-- Each retry of the tree restarts what is in it. A call in which a restart is granted returns it
if the edge that failed is exclusive. Otherwise the call goes on from it, and it fails with a cycle
exactly if the restart is a frontier that it has been at. -/
theorem restarts_of_compile {root : Item σ ε} {config : Config} {flow : Flow σ ε}
    (compiles : Flow.compile root config = .ok flow) :
    (∀ address child handler, root.at? address = some (.retry child handler) → ∃ inner around,
      root.RetryCompiles address child handler flow.table.transitions inner around ∧
        child.RestartsChild handler inner around) ∧
    ∀ state start left earlier frontier transition restart after,
      flow.Granted state start left earlier frontier transition restart after →
        flow.Restarts state start left earlier frontier transition.isExclusive restart after := by
  obtain ⟨compiled, compilesRoot, rfl⟩ := Flow.compile_eq_ok_iff.mp compiles
  refine ⟨fun address child handler found => ?_, fun _ _ _ _ _ _ _ _ granted => granted.restarts⟩
  obtain ⟨inner, around, retry⟩ := Item.exists_retryCompiles compilesRoot found
  obtain ⟨scope, compilesChild⟩ := retry.compiles
  refine ⟨inner, around, retry, ?_, ?_⟩
  · intro transition _ context cause between after fails agrees
    exact Transition.Grants.underAll (.agrees inner.scope.start fails agrees) around
  · intro builtIn transition mem context cause between fails
    exact Item.exclusive_of_fails builtIn compilesChild mem fails

/-- The first attempt at the upload fails behind a silent edge, and the call returns the start of
the upload. -/
theorem restarts_of_compile_uploading : ∃ flow,
    Flow.compile (Flow.uploading Deployment.upload) = .ok flow ∧
    (∃ inner around, (Flow.uploading Deployment.upload).RetryCompiles []
      (.steps "upload" [.activity "put" Deployment.upload]) Deployment.retryUpload
      flow.table.transitions inner around) ∧
    flow.apply .empty {} = (.ok ⟨["start:upload"]⟩, { uploadAttempts := 1 }) := by
  obtain ⟨flow, compiles⟩ : ∃ flow, Flow.compile (Flow.uploading Deployment.upload) = .ok flow :=
    ⟨_, rfl⟩
  obtain ⟨retries, restarts⟩ := restarts_of_compile compiles
  obtain ⟨inner, around, retry, _⟩ := retries [] _ _ rfl
  refine ⟨flow, compiles, ⟨inner, around, retry⟩, ?_⟩
  have shape := Except.ok.inj compiles
  have arrives : flow.Arrives .empty {} 99 [⟨["start:upload"]⟩] ⟨["start:upload/put"]⟩ {} := by
    rw [← shape]
    exact .pass .entry (by rfl) (by decide)
  obtain ⟨transition, found, exclusive, grants⟩ : ∃ transition,
      flow.table.lookup ⟨["start:upload/put"]⟩ = some transition ∧
      transition.isExclusive = true ∧
      transition.Grants ⟨.start, "upload"⟩ {} { uploadAttempts := 1 } := by
    rw [← shape]
    exact ⟨_, rfl, rfl, .agrees _ rfl rfl⟩
  have pending : ¬flow.isCompleted ⟨["start:upload/put"]⟩ = true := by
    rw [← shape]
    decide
  exact (restarts _ _ _ _ _ _ _ _ ⟨⟨_, arrives, grants⟩, pending, found⟩).returned exclusive

/-- An edge of the caller that fails once, and that is not exclusive, in a retry. -/
def stumbling : Item Rehearsal.Stage String :=
  .retry (Rehearsal.Sketch.item {
    name := "c"
    scopeName := "c"
    edges := [⟨"start:.", ["completed:."], [],
      .raw false ⟨"c", [[.fail "raw failed"], [.answer true]]⟩⟩] })
    (Rehearsal.Script.handler ⟨"retry", [[.answer true]]⟩)

/-- The stage after the first attempt and the handler's answer. -/
def stumbled : Rehearsal.Stage where
  journal := ["retry(raw failed)", "c"]
  counts := [("c", 1), ("retry", 1)]

/-- The handler agrees to start again, but the call fails with a cycle of silent edges. There is no
edge but the one that failed, and that one leads to the end the next time it is taken. -/
theorem stumbling_granted_cyclic : ∃ flow, Flow.compile stumbling ⟨1, .yield⟩ = .ok flow ∧
    (∃ transition, flow.table.transitions = [transition] ∧
      flow.Granted .empty {} 0 [] ⟨["start:c"]⟩ transition ⟨.start, "c"⟩ stumbled) ∧
    flow.apply .empty {} = (.error (.staticCycle ⟨["start:c"]⟩), stumbled) ∧
    (flow.apply .empty stumbled).1 = .ok ⟨["completed:c"]⟩ := by
  obtain ⟨flow, compiles⟩ : ∃ flow, Flow.compile stumbling ⟨1, .yield⟩ = .ok flow := ⟨_, rfl⟩
  have shape := Except.ok.inj compiles
  obtain ⟨transition, only, found, grants⟩ : ∃ transition,
      flow.table.transitions = [transition] ∧ flow.table.lookup ⟨["start:c"]⟩ = some transition ∧
      transition.Grants ⟨.start, "c"⟩ {} stumbled := by
    rw [← shape]
    exact ⟨_, rfl, rfl, .agrees _ rfl rfl⟩
  have arrives : flow.Arrives .empty {} 1 [] ⟨["start:c"]⟩ {} := by
    rw [← shape]
    exact .entry
  have pending : ¬flow.isCompleted ⟨["start:c"]⟩ = true := by
    rw [← shape]
    decide
  refine ⟨flow, compiles, ⟨transition, only, ⟨⟨_, arrives, grants⟩, pending, found⟩⟩, ?_, ?_⟩ <;>
    rw [← shape] <;> rfl

end ResumableFlow
