import ResumableFlow.Proofs.Demands

/-!
# Failures and their handlers

When the function of an item fails, the retries that have the item in them are asked one after the
other, from the innermost one outwards, until one of them starts again or none is left. A handler
that fails itself puts its own error in the place of the one that it was asked about. `Handled` says
this for a list of retries, `Item.retriesAround` lists those around an address, and
`handlesFailure_of_compile` says that calls do just that.

The exclusive edge that such a call ends with stems from an item of the recorded tree and lies under
the retries around it (`Item.emits_of_compile`), so taking it asks their handlers
(`Item.Emits.tried`).
-/

namespace ResumableFlow

variable {σ ε : Type}

/-! ## Failures -/

/-- The function of the item fails with `cause` on `context` and leaves `after`. -/
def Item.FailsOn (context : σ) (cause : ε) (after : σ) : Item σ ε → Prop
  | activity _ run => run context = (.error cause, after)
  | gate _ _ condition => condition context = (.error cause, after)
  | loopUntil _ _ condition => condition context = (.error cause, after)
  | waitFor _ condition => condition context = (.error cause, after)
  | _ => False

/-- What comes of the function of the item, with the note of its run. -/
inductive Item.Asked (item : Item σ ε) (place : List Nat) (context : σ)
    (journal : List (Invocation (List Nat) σ ε)) :
    Except ε (List Event) × Journaled (List Nat) σ ε → Prop
  | succeeds (events : List Event) (after : σ) : Asked item place context journal
    (.ok events, (after, journal ++ [⟨place, none, context, after, none⟩]))
  | fails {cause : ε} {after : σ} (fails : item.FailsOn context cause after) :
    Asked item place context journal
      (.error cause, (after, journal ++ [⟨place, none, context, after, some cause⟩]))

namespace Item

variable {item : Item σ ε} (place : List Nat) (context : σ)
  (journal : List (Invocation (List Nat) σ ε))

theorem asked_recorded {α : Type} {run : Callable σ ε α} (choose : α → List Event)
    (own : ∀ cause after, run context = (.error cause, after) →
      item.FailsOn context cause after) :
    item.Asked place context journal
      (((run.recorded place none).map choose) (context, journal)) := by
  simp only [Callable.map, Callable.recorded]
  rcases ran : run context with ⟨cause | answer, after⟩
  · exact .fails (own cause after ran)
  · exact .succeeds (choose answer) after

theorem Asks.take_recorded {bare : Transition (Journaled (List Nat) σ ε) ε}
    (h : (item.recorded place).Asks bare) :
    item.Asked place context journal (bare.take (context, journal)) := by
  cases item with
  | steps name items => cases h
  | retry body handler => cases h
  | custom name compile => cases h
  | _ =>
    cases h
    exact asked_recorded place context journal _ fun cause after ran => ran

end Item

/-- The retries are asked about the error `cause` on the context, one after the other, with these
invocations. In the end one of them leads back to its start, or an error is left. -/
inductive Handled : List (RetryAt σ ε) → ε → σ → List (Invocation (List Nat) σ ε) →
    Except ε Event × σ → Prop
  | exhausted (cause : ε) (context : σ) : Handled [] cause context [] (.error cause, context)
  | restarts {retry : RetryAt σ ε} (outer : List (RetryAt σ ε)) {cause : ε} {context after : σ}
    (agrees : retry.handler cause context = (.ok true, after)) :
    Handled (retry :: outer) cause context [⟨retry.place, some cause, context, after, none⟩]
      (.ok retry.restart, after)
  | declines {retry : RetryAt σ ε} {outer : List (RetryAt σ ε)} {cause : ε} {context after : σ}
    {handlers : List (Invocation (List Nat) σ ε)} {result : Except ε Event × σ}
    (refuses : retry.handler cause context = (.ok false, after))
    (rest : Handled outer cause after handlers result) :
    Handled (retry :: outer) cause context
      (⟨retry.place, some cause, context, after, none⟩ :: handlers) result
  | breaks {retry : RetryAt σ ε} {outer : List (RetryAt σ ε)} {cause own : ε} {context after : σ}
    {handlers : List (Invocation (List Nat) σ ε)} {result : Except ε Event × σ}
    (fails : retry.handler cause context = (.error own, after))
    (rest : Handled outer own after handlers result) :
    Handled (retry :: outer) cause context
      (⟨retry.place, some cause, context, after, some own⟩ :: handlers) result

/-- An edge that fails asks the handlers that it lies under. -/
theorem Handled.of_take (retries : List (RetryAt σ ε)) :
    ∀ {bare : Transition (Journaled (List Nat) σ ε) ε} {start : Journaled (List Nat) σ ε}
      {cause : ε} {after : σ} {journal : List (Invocation (List Nat) σ ε)},
    bare.take start = (.error cause, (after, journal)) → ∃ handlers result,
      Handled retries cause after handlers result ∧
        (bare.under ((retries.map RetryAt.recorded).map RetryAt.toGuard)).take start =
          (result.1.map ([·]), (result.2, journal ++ handlers)) := by
  induction retries with
  | nil =>
    intro bare start cause after journal failed
    refine ⟨[], _, .exhausted cause after, ?_⟩
    rw [List.append_nil]
    exact failed
  | cons retry outer ih =>
    intro bare start cause after journal failed
    have take : (bare.guarded retry.restart (retry.handler.recorded retry.place)).take start =
        bare.take.guard (retry.handler.recorded retry.place) [retry.restart] start := rfl
    simp only [Callable.guard, failed, Handler.recorded, Callable.recorded] at take
    -- For the retries outside, the edge under this handler is the edge that may have failed.
    rcases answered : retry.handler cause after with ⟨own | _ | _, final⟩ <;>
      rw [answered] at take
    · obtain ⟨handlers, result, handled, taken⟩ := ih take
      refine ⟨_, result, .breaks answered handled, ?_⟩
      rw [List.append_assoc] at taken
      exact taken
    · obtain ⟨handlers, result, handled, taken⟩ := ih take
      refine ⟨_, result, .declines answered handled, ?_⟩
      rw [List.append_assoc] at taken
      exact taken
    · refine ⟨_, _, .restarts outer answered, ?_⟩
      exact Transition.take_under ((outer.map RetryAt.recorded).map RetryAt.toGuard) take

theorem Handled.handled_ne_none {retries : List (RetryAt σ ε)} {cause : ε} {context : σ}
    {handlers : List (Invocation (List Nat) σ ε)} {result : Except ε Event × σ}
    (h : Handled retries cause context handlers result) :
    ∀ entry ∈ handlers, entry.handled ≠ none := by
  induction h with
  | exhausted _ _ => exact fun _ mem => absurd mem List.not_mem_nil
  | restarts _ _ => simp
  | declines _ _ ih => simpa using ih
  | breaks _ _ ih => simpa using ih

/-- What taking an exclusive edge of the recorded tree comes to. -/
inductive Item.Tried (root : Item σ ε) (context : σ) (journal : List (Invocation (List Nat) σ ε)) :
    Except ε (List Event) × Journaled (List Nat) σ ε → Prop
  | succeeds (place : List Nat) (events : List Event) (after : σ) : Tried root context journal
    (.ok events, (after, journal ++ [⟨place, none, context, after, none⟩]))
  | fails {place : List Nat} {item : Item σ ε} {cause : ε} {after : σ}
    {handlers : List (Invocation (List Nat) σ ε)} {result : Except ε Event × σ}
    (found : root.at? place = some item) (fails : item.FailsOn context cause after)
    (handled : Handled (root.retriesAround none [] place) cause after handlers result) :
    Tried root context journal (result.1.map ([·]),
      (result.2, journal ++ ⟨place, none, context, after, some cause⟩ :: handlers))

theorem Item.Emits.tried {root : Item σ ε} {transition : Transition (Journaled (List Nat) σ ε) ε}
    (h : (root.recorded []).Emits none transition) (context : σ)
    (journal : List (Invocation (List Nat) σ ε)) :
    root.Tried context journal (transition.take (context, journal)) := by
  obtain ⟨place, recorded, bare, found, asks, eq⟩ := h
  rw [at?_recorded, List.nil_append] at found
  obtain ⟨item, there, rfl⟩ := Option.map_eq_some_iff.mp found
  rw [eq [], retriesAround_recorded]
  have asked := asks.take_recorded place context journal
  generalize taken : bare.take (context, journal) = outcome at asked
  cases asked with
  | succeeds events after =>
    rw [Transition.take_under _ taken]
    exact .succeeds place events after
  | fails fails =>
    obtain ⟨handlers, result, handled, takenUnder⟩ :=
      Handled.of_take (root.retriesAround none [] place) taken
    rw [List.append_assoc] at takenUnder
    rw [takenUnder]
    exact .fails there fails handled

/-! ## Failed calls -/

/-- What a call answers after the handlers of a failed function. -/
def CallResult.ofHandling : Except ε Event → CallResult ε
  | .ok restart => .ok (.ofEvents [restart])
  | .error cause => .error (.callable cause)

theorem CallResult.ofHandling_eq (answer : Except ε Event) (config : Config) :
    (Ending.ofTake (answer.map ([·]))).answer config = CallResult.ofHandling answer := by
  cases answer <;> rfl

/-- A call that made these invocations has handled the failure of the function in the one of
them. -/
structure Item.HandlesFailure (root : Item σ ε) (entry : Invocation (List Nat) σ ε) (cause : ε)
    (invocations : List (Invocation (List Nat) σ ε)) (called : CallResult ε × σ) : Prop where
  owner : ∃ item, root.at? entry.place = some item ∧
    item.FailsOn entry.before cause entry.after
  around : (root.retriesAround none [] entry.place).map (fun retry =>
      (retry.place, retry.handler)) =
    entry.place.inits.dropLast.reverse.filterMap fun place =>
      ((root.at? place).bind handler?).map (place, ·)
  /-- The retries around the item are asked after it, and nothing else is invoked. -/
  handled : ∃ handlers result, invocations = entry :: handlers ∧
    Handled (root.retriesAround none [] entry.place) cause entry.after handlers result ∧
      called = (CallResult.ofHandling result.1, result.2)

theorem Item.Tried.handlesFailure {root : Item σ ε} {context : σ}
    {journal added : List (Invocation (List Nat) σ ε)}
    {outcome : Except ε (List Event) × Journaled (List Nat) σ ε} {called : CallResult ε × σ}
    {config : Config} (h : root.Tried context journal outcome)
    (eq : (called.1, (called.2, journal ++ added)) =
      ((Ending.ofTake outcome.1).answer config, outcome.2)) {entry : Invocation (List Nat) σ ε}
    (mem : entry ∈ added) (own : entry.handled = none) {cause : ε}
    (failed : entry.failure = some cause) : root.HandlesFailure entry cause added called := by
  cases h with
  | succeeds place events after =>
    simp only [Prod.mk.injEq, List.append_cancel_left_eq] at eq
    obtain ⟨_, _, rfl⟩ := eq
    rw [List.mem_singleton.mp mem] at failed
    cases failed
  | @fails place item first after handlers result found fails handled =>
    simp only [Prod.mk.injEq, List.append_cancel_left_eq] at eq
    obtain ⟨answer, context_eq, rfl⟩ := eq
    -- Only the first invocation is of a function that is no handler.
    obtain rfl : entry = ⟨place, none, context, after, some first⟩ := by
      rcases List.mem_cons.mp mem with here | later
      · exact here
      · exact absurd own (handled.handled_ne_none entry later)
    obtain rfl : first = cause := Option.some.inj failed
    rw [CallResult.ofHandling_eq] at answer
    exact {
      owner := ⟨item, found, fails⟩
      around := retriesAround_eq_filterMap place none [] (Option.isSome_of_eq_some found)
      handled := ⟨handlers, result, rfl, handled, Prod.ext answer context_eq⟩ }

/-- When the function of an item of a tree of the library's own kinds fails in a call, the retries
around the item are asked from the innermost one outwards, each once and no others. The first one
that agrees is started again, and without one the call fails with the error that is left. -/
theorem handlesFailure_of_compile {root : Item σ ε} {config : Config} {flow : Flow σ ε}
    (builtIn : root.isBuiltIn = true) (compiles : Flow.compile root config = .ok flow) :
    ∃ recording, Flow.compile (root.recorded []) config = .ok recording ∧
      ∀ state context journal, ∃ added,
        recording.apply state (context, journal) = ((flow.apply state context).1,
          ((flow.apply state context).2, journal ++ added)) ∧
        ∀ entry ∈ added, entry.handled = none → ∀ cause, entry.failure = some cause →
          root.HandlesFailure entry cause added (flow.apply state context) := by
  obtain ⟨recording, compilesRecording, mirrors, regular⟩ :=
    Flow.exists_recording builtIn compiles
  refine ⟨recording, compilesRecording, fun state context journal => ?_⟩
  obtain ⟨added, applied⟩ := mirrors.apply state context journal
  refine ⟨added, applied, fun entry mem own cause failed => ?_⟩
  have spec := regular.apply_spec state (context, journal)
  generalize recording.demand state = demand, ends : recording.apply state (context, journal) =
    outcome at spec
  rw [applied] at ends
  cases spec with
  | answers _ =>
    -- A call that has not touched the journal has invoked nothing.
    obtain rfl : added = [] := by simpa using congrArg (·.2.2) ends
    exact absurd mem List.not_mem_nil
  | @takes transition memEdges exclusive =>
    obtain ⟨compiled, compilesRoot, rfl⟩ := Flow.compile_eq_ok_iff.mp compilesRecording
    have builtInRecorded := (root.isBuiltIn_recorded []).trans builtIn
    have emits := Item.emits_of_compile builtInRecorded compilesRoot transition memEdges exclusive
    exact (emits.tried context journal).handlesFailure ends mem own failed

/-- An upload that is given up as soon as it fails, in a release that starts again when something
has been given up. -/
def releasing : Item Deployment String :=
  .retry (.steps "release" [.retry (.activity "put" Deployment.upload)
    fun _ data => (.error "given up", data)]) fun cause data => (.ok (cause == "given up"), data)

theorem handlesFailure_of_compile_releasing : ∃ flow, Flow.compile releasing = .ok flow ∧
    releasing.isBuiltIn = true ∧ ∃ entry handlers,
      entry.handled = none ∧ entry.failure = some "connection reset during upload" ∧
      handlers.map (fun handler => (handler.place, handler.handled)) =
        [([0, 0], some "connection reset during upload"), ([], some "given up")] ∧
      releasing.HandlesFailure entry "connection reset during upload" (entry :: handlers)
        (flow.apply ⟨["start:release/put"]⟩ {}) ∧
      (flow.apply ⟨["start:release/put"]⟩ {}).1 = .ok ⟨["start:release"]⟩ := by
  obtain ⟨flow, compiles⟩ : ∃ flow, Flow.compile releasing = .ok flow := ⟨_, rfl⟩
  have builtIn : releasing.isBuiltIn = true := rfl
  obtain ⟨recording, compilesRecording, handles⟩ := handlesFailure_of_compile builtIn compiles
  obtain ⟨added, applied, handled⟩ := handles ⟨["start:release/put"]⟩ {} []
  have answered : (flow.apply ⟨["start:release/put"]⟩ {}).1 = .ok ⟨["start:release"]⟩ := by
    rw [← Except.ok.inj compiles]
    decide +kernel
  have noted : added.map (fun entry => (entry.place, entry.handled, entry.failure)) =
      [([0, 0, 0], none, some "connection reset during upload"),
        ([0, 0], some "connection reset during upload", some "given up"),
        ([], some "given up", none)] := by
    have journal : added = (recording.apply ⟨["start:release/put"]⟩ ({}, [])).2.2 := by
      rw [applied]
      rfl
    rw [journal, ← Except.ok.inj compilesRecording]
    decide +kernel
  obtain ⟨entry, handlers, rfl, first, others⟩ := List.map_eq_cons_iff.mp noted
  obtain ⟨_, own, failed⟩ : entry.place = [0, 0, 0] ∧ entry.handled = none ∧
      entry.failure = some "connection reset during upload" := by simpa using first
  have asked := congrArg (List.map fun note => (note.1, note.2.1)) others
  rw [List.map_map] at asked
  exact ⟨flow, compiles, builtIn, entry, handlers, own, failed, asked,
    handled entry List.mem_cons_self own _ failed, answered⟩

end ResumableFlow
