import ResumableFlow.Proofs.Execution
import ResumableFlow.Proofs.Recording

/-!
# Recorded trees

A recorded tree notes each run of a function under the address of the item that the function
stands at. It corresponds to the tree (`Item.recorded_corresponds`), so it compiles whenever the
tree does and its compiled list mirrors that of the tree. Both executions of a recorded tree, the
direct one and the one in calls, record those of the tree.
-/

namespace ResumableFlow

variable {ι σ ε : Type}

namespace Item

mutual

/-- Note each run of a function in the tree under the address of its item, which lists the
positions on the way from the root. -/
def recorded (address : List Nat) : Item σ ε → Item (Journaled (List Nat) σ ε) ε
  | activity name run => .activity name (run.recorded address none)
  | steps name items => .steps name (recordedFrom address 0 items)
  | gate name body condition =>
    .gate name (body.recorded (address ++ [0])) (condition.recorded address none)
  | loopUntil name body condition =>
    .loopUntil name (body.recorded (address ++ [0])) (condition.recorded address none)
  | retry body handler => .retry (body.recorded (address ++ [0])) (handler.recorded address)
  | waitFor name condition => .waitFor name (condition.recorded address none)
  | custom name compile =>
    .custom name fun parent => (compile parent).map (·.recorded fun _ _ => address)

def recordedFrom (address : List Nat) (position : Nat) :
    List (Item σ ε) → List (Item (Journaled (List Nat) σ ε) ε)
  | [] => []
  | item :: items =>
    item.recorded (address ++ [position]) :: recordedFrom address (position + 1) items

end

end Item

/-! ## Their compilation -/

/-- Functions that record the functions of a tree make edges that mirror those of the tree. -/
def Correspondence.mirrors : Correspondence (Journaled ι σ ε) σ ε where
  callable := Records
  transition := Transition.Mirrors
  fixed := .fixed
  chosen records _ _ choose := .chosen (records.map choose)
  guarded mirrors records _ := .guarded mirrors records

theorem Compiled.recorded_corresponds (place : Event → Nat → ι) (compiled : Compiled σ ε) :
    (compiled.recorded place).Corresponds .mirrors compiled where
  scope := rfl
  edges := Transition.Mirrors.recorded_map place compiled.transitions

namespace Item

mutual

/-- A recorded tree corresponds to the tree. -/
theorem recorded_corresponds : ∀ (item : Item σ ε) (address : List Nat),
    (item.recorded address).Corresponds .mirrors item
  | activity name run, address => .activity name (Records.recorded address none run)
  | steps name items, address => .steps name (recordedFrom_correspond items address 0)
  | gate name body condition, address =>
    .gate name (body.recorded_corresponds (address ++ [0]))
      (Records.recorded address none condition)
  | loopUntil name body condition, address =>
    .loopUntil name (body.recorded_corresponds (address ++ [0]))
      (Records.recorded address none condition)
  | retry body handler, address =>
    .retry (body.recorded_corresponds (address ++ [0]))
      fun cause => Records.recorded address (some cause) (handler cause)
  | waitFor name condition, address => .waitFor name (Records.recorded address none condition)
  | custom name compile, address => .custom name fun parent compiled compiles => by
    refine ⟨compiled.recorded fun _ _ => address, ?_, compiled.recorded_corresponds _⟩
    rw [compiles]
    rfl

theorem recordedFrom_correspond : ∀ (items : List (Item σ ε)) (address : List Nat)
    (position : Nat),
    List.Forall₂ (Corresponds .mirrors) (recordedFrom address position items) items
  | [], _, _ => .nil
  | item :: items, address, position =>
    .cons (item.recorded_corresponds (address ++ [position]))
      (recordedFrom_correspond items address (position + 1))

end

theorem isBuiltIn_recorded (item : Item σ ε) (address : List Nat) :
    (item.recorded address).isBuiltIn = item.isBuiltIn :=
  (item.recorded_corresponds address).isBuiltIn_eq

end Item

theorem Flow.Related.mirrors {recording : Flow (Journaled ι σ ε) ε} {flow : Flow σ ε}
    (h : recording.Related Transition.Mirrors flow) : recording.Mirrors flow :=
  ⟨h.scope, h.config, h.edges, h.table', h.table⟩

theorem Flow.exists_mirrors {root : Item σ ε} {config : Config} {flow : Flow σ ε}
    (compiles : Flow.compile root config = .ok flow) (address : List Nat) :
    ∃ recording, Flow.compile (root.recorded address) config = .ok recording ∧
      Flow.Mirrors recording flow := by
  have corresponds := root.recorded_corresponds address
  obtain ⟨recording, compilesRecording, related⟩ := corresponds.compileFlow compiles
  exact ⟨recording, compilesRecording, related.mirrors⟩

/-! ## Their executions -/

namespace Records

open Execution

theorem done : Records (ι := ι) (Execution.done (σ := Journaled ι σ ε) (ε := ε)) Execution.done :=
  .pure _

theorem attempt {recorded : Callable (Journaled ι σ ε) ε Unit} {run : Callable σ ε Unit}
    (h : Records recorded run) : Records (Execution.attempt recorded) (Execution.attempt run) := by
  intro context journal
  obtain ⟨added, eq⟩ := h context journal
  refine ⟨added, ?_⟩
  simp only [Execution.attempt, eq]
  rcases run context with ⟨cause | _, after⟩ <;> rfl

theorem ask {recorded : Callable (Journaled ι σ ε) ε Bool} {condition : Callable σ ε Bool}
    {recordedTrue recordedFalse : Execution (Journaled ι σ ε) ε}
    {whenTrue whenFalse : Execution σ ε} (h : Records recorded condition)
    (recordsTrue : Records recordedTrue whenTrue) (recordsFalse : Records recordedFalse whenFalse) :
    Records (Execution.ask recorded recordedTrue recordedFalse)
      (Execution.ask condition whenTrue whenFalse) := by
  intro context journal
  obtain ⟨added, eq⟩ := h context journal
  simp only [Execution.ask, eq]
  rcases condition context with ⟨cause | _ | _, after⟩
  · exact ⟨added, rfl⟩
  · obtain ⟨addedNext, eqNext⟩ := recordsFalse after (journal ++ added)
    refine ⟨added ++ addedNext, ?_⟩
    simp only [eqNext, List.append_assoc]
  · obtain ⟨addedNext, eqNext⟩ := recordsTrue after (journal ++ added)
    refine ⟨added ++ addedNext, ?_⟩
    simp only [eqNext, List.append_assoc]

theorem andThen {recorded recordedNext : Execution (Journaled ι σ ε) ε}
    {first next : Execution σ ε} (h : Records recorded first)
    (records : Records recordedNext next) :
    Records (recorded.andThen recordedNext) (first.andThen next) := by
  intro context journal
  obtain ⟨added, eq⟩ := h context journal
  simp only [Execution.andThen, eq]
  rcases first context with ⟨_ | cause | _, after⟩
  · obtain ⟨addedNext, eqNext⟩ := records after (journal ++ added)
    refine ⟨added ++ addedNext, ?_⟩
    simp only [eqNext, List.append_assoc]
  · exact ⟨added, rfl⟩
  · exact ⟨added, rfl⟩

theorem rescue {recorded recordedAgain : Execution (Journaled ι σ ε) ε}
    {recordedHandler : Handler (Journaled ι σ ε) ε} {body again : Execution σ ε}
    {handler : Handler σ ε} (h : Records recorded body)
    (handles : ∀ cause, Records (recordedHandler cause) (handler cause))
    (records : Records recordedAgain again) :
    Records (recorded.rescue recordedHandler recordedAgain) (body.rescue handler again) := by
  intro context journal
  obtain ⟨added, eq⟩ := h context journal
  simp only [Execution.rescue, eq]
  rcases body context with ⟨_ | cause | _, after⟩
  · exact ⟨added, rfl⟩
  · obtain ⟨addedNext, eqNext⟩ := handles cause after (journal ++ added)
    simp only [eqNext]
    rcases handler cause after with ⟨failure | _ | _, final⟩
    · exact ⟨added ++ addedNext, by simp only [List.append_assoc]⟩
    · exact ⟨added ++ addedNext, by simp only [List.append_assoc]⟩
    · obtain ⟨addedLast, eqLast⟩ := records final (journal ++ added ++ addedNext)
      refine ⟨added ++ (addedNext ++ addedLast), ?_⟩
      simp only [eqLast]
      simp only [List.append_assoc]
  · exact ⟨added, rfl⟩

theorem repeatUntil {recordedBody : Execution (Journaled ι σ ε) ε} {body : Execution σ ε}
    {recorded : Callable (Journaled ι σ ε) ε Bool} {condition : Callable σ ε Bool}
    (h : Records recordedBody body) (records : Records recorded condition) (rounds : Nat) :
    Records (Execution.repeatUntil recordedBody recorded rounds)
      (Execution.repeatUntil body condition rounds) := by
  induction rounds with
  | zero => exact .pure _
  | succ rounds ih => exact h.andThen (records.ask .done ih)

theorem retrying {recordedBody : Execution (Journaled ι σ ε) ε} {body : Execution σ ε}
    {recordedHandler : Handler (Journaled ι σ ε) ε} {handler : Handler σ ε}
    (h : Records recordedBody body)
    (handles : ∀ cause, Records (recordedHandler cause) (handler cause)) (rounds : Nat) :
    Records (Execution.retrying recordedBody recordedHandler rounds)
      (Execution.retrying body handler rounds) := by
  induction rounds with
  | zero => exact .pure _
  | succ rounds ih => exact h.rescue handles ih

end Records

namespace Item

mutual

theorem records_run (rounds : Nat) : ∀ (item : Item σ ε) (address : List Nat),
    Records ((item.recorded address).run rounds) (item.run rounds)
  | activity _ run, _ => .attempt (.recorded _ _ run)
  | steps _ items, address => records_runSteps rounds items address 0
  | gate _ body condition, address =>
    .ask (.recorded _ _ condition) (body.records_run rounds (address ++ [0])) .done
  | loopUntil _ body condition, address =>
    .repeatUntil (body.records_run rounds (address ++ [0])) (.recorded _ _ condition) rounds
  | retry body handler, address =>
    .retrying (body.records_run rounds (address ++ [0]))
      (fun cause => .recorded _ _ (handler cause)) rounds
  | waitFor _ condition, _ => .repeatUntil .done (.recorded _ _ condition) rounds
  | custom _ _, _ => .pure _

theorem records_runSteps (rounds : Nat) : ∀ (items : List (Item σ ε)) (address : List Nat)
    (position : Nat),
    Records (runSteps rounds (recordedFrom address position items)) (runSteps rounds items)
  | [], _, _ => .done
  | item :: items, address, position =>
    .andThen (item.records_run rounds (address ++ [position]))
      (records_runSteps rounds items address (position + 1))

end

end Item

namespace Flow.Mirrors

variable {recorded : Flow (Journaled ι σ ε) ε} {plain : Flow σ ε}

theorem progress (h : Mirrors recorded plain) (calls : Nat) : ∀ state : State, ∀ context journal,
    ∃ added, recorded.progress calls state (context, journal) =
      ((plain.progress calls state context).1,
        ((plain.progress calls state context).2, journal ++ added)) := by
  induction calls with
  | zero =>
    intro state context journal
    refine ⟨[], ?_⟩
    rw [List.append_nil]
    by_cases done : plain.isCompleted state = true
    · rw [plain.progress_of_isCompleted 0 done,
        recorded.progress_of_isCompleted 0 ((h.isCompleted state).trans done)]
    · rw [plain.progress_zero done,
        recorded.progress_zero (mt (h.isCompleted state).symm.trans done)]
  | succ calls ih =>
    intro state context journal
    by_cases done : plain.isCompleted state = true
    · refine ⟨[], ?_⟩
      rw [List.append_nil, plain.progress_of_isCompleted _ done,
        recorded.progress_of_isCompleted _ ((h.isCompleted state).trans done)]
    · have pending := mt (h.isCompleted state).symm.trans done
      obtain ⟨added, eq⟩ := h.call state context journal
      rcases called : plain.call ⟨state, context⟩ with ⟨error | answer, next⟩ <;> rw [called] at eq
      · refine ⟨added, ?_⟩
        rw [plain.progress_of_error calls done called, recorded.progress_of_error calls pending eq]
      · obtain ⟨addedNext, eqNext⟩ := ih next.state next.context (journal ++ added)
        refine ⟨added ++ addedNext, ?_⟩
        rw [plain.progress_of_ok calls done called, recorded.progress_of_ok calls pending eq,
          eqNext, List.append_assoc]

end Flow.Mirrors

end ResumableFlow
