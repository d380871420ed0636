import ResumableFlow.Proofs.Calls
import ResumableFlow.Proofs.Invocations

/-!
# What a call invokes

A call invokes at most one activity or condition, and the state tells which one before anything
runs. `Flow.demand` reads it off the flow: where the silent part of the call stops at an exclusive
edge, the function of that edge is asked, and otherwise nothing is invoked and the answer is known
(`Flow.Regular.apply_spec`). Handlers are asked only after the function has failed.

What is invoked is told by the journal of the recorded tree, under the addresses of its items. Each
exclusive edge of that tree runs the function at one address (`Flow.RunsAt`), and in trees of one
shape at the same one, so the demand is settled by the shape of the tree, the settings and the state
(`Item.meets_demand`).
-/

namespace ResumableFlow

variable {ι σ ε : Type}

/-! ## Demands -/

/-- What a call does, as far as it is known before anything runs. -/
inductive Demand (ι ε : Type) where
  /-- It invokes nothing and has this result. -/
  | answer (result : CallResult ε)
  /-- It first asks the function at the place. -/
  | ask (place : ι)

def Demand.map {κ : Type} (f : ι → κ) : Demand ι ε → Demand κ ε
  | answer result => .answer result
  | ask place => .ask (f place)

namespace Flow

/-- What the state of a call demands. A function is told by the event that its edge leaves. -/
def demand (flow : Flow σ ε) (state : State) : Demand Event ε :=
  match flow.haltOf state with
  | .stops last =>
    if flow.isCompleted last then .answer (.ok last)
    else
      match flow.table.lookup last with
      | none => .answer (.error (.unhandledState last))
      | some transition => .ask transition.source
  | .repeats next => .answer (.error (.staticCycle next))
  | .limited frontier => .answer ((Ending.limited frontier).answer flow.config)

/-- Where the demand of a state comes from. -/
inductive DemandSpec (flow : Flow σ ε) (state : State) : Demand Event ε → Prop
  | completed {last : State} (halts : flow.haltOf state = .stops last)
    (done : flow.isCompleted last = true) : DemandSpec flow state (.answer (.ok last))
  | unhandled {last : State} (halts : flow.haltOf state = .stops last)
    (pending : ¬flow.isCompleted last = true) (notFound : flow.table.lookup last = none) :
    DemandSpec flow state (.answer (.error (.unhandledState last)))
  | exclusive {last : State} {transition : Transition σ ε}
    (halts : flow.haltOf state = .stops last) (pending : ¬flow.isCompleted last = true)
    (found : flow.table.lookup last = some transition)
    (exclusive : transition.isExclusive = true) : DemandSpec flow state (.ask transition.source)
  | repeats {next : State} (halts : flow.haltOf state = .repeats next) :
    DemandSpec flow state (.answer (.error (.staticCycle next)))
  | limited {frontier : State} (halts : flow.haltOf state = .limited frontier) :
    DemandSpec flow state (.answer ((Ending.limited frontier).answer flow.config))

theorem Steady.demand_spec {flow : Flow σ ε} (h : flow.Steady) (state : State) :
    flow.DemandSpec state (flow.demand state) := by
  unfold demand
  rcases halts : flow.haltOf state with last | next | frontier
  · cases h.stop_spec (reaches_of_halt _ halts).2 with
    | completed done =>
      simp only [if_pos done]
      exact .completed halts done
    | unhandled pending notFound =>
      simp only [if_neg pending, notFound]
      exact .unhandled halts pending notFound
    | exclusive pending found exclusive =>
      simp only [if_neg pending, found]
      exact .exclusive halts pending found exclusive
  · exact .repeats halts
  · exact .limited halts

/-- What a call comes to, by the demand of its state. -/
inductive ApplySpec (flow : Flow σ ε) (context : σ) : Demand Event ε → CallResult ε × σ → Prop
  | answers {result : CallResult ε} (own : ∀ cause, result ≠ .error (.callable cause)) :
    ApplySpec flow context (.answer result) (result, context)
  | takes {transition : Transition σ ε} (mem : transition ∈ flow.table.transitions)
    (exclusive : transition.isExclusive = true) :
    ApplySpec flow context (.ask transition.source)
      ((Ending.ofTake (transition.take context).1).answer flow.config, (transition.take context).2)

theorem ApplySpec.of_ending {flow : Flow σ ε} {state : State} {context : σ} {ending : Ending ε}
    (ended : flow.ending state context = (ending, context))
    (own : ∀ cause, ending ≠ .failed cause) :
    flow.ApplySpec context (.answer (ending.answer flow.config)) (flow.apply state context) := by
  simp only [apply, ended]
  exact .answers fun cause failed => own cause (Ending.answer_eq_callable failed)

theorem Regular.apply_spec {flow : Flow σ ε} (h : flow.Regular) (state : State) (context : σ) :
    flow.ApplySpec context (flow.demand state) (flow.apply state context) := by
  have ended := h.steady.ending_eq_finish state context
  have spec := h.steady.demand_spec state
  generalize flow.demand state = demand at spec
  cases spec with
  | completed halts done =>
    rw [halts, flow.finish_completed context done] at ended
    exact .of_ending ended (by simp)
  | unhandled halts pending notFound =>
    rw [halts, flow.finish_unhandled context pending notFound] at ended
    exact .of_ending ended (by simp)
  | exclusive halts pending found exclusive =>
    rw [halts, flow.finish_exclusive context pending found exclusive] at ended
    simp only [apply, ended]
    exact .takes (h.mem_of_lookup found).1 exclusive
  | repeats halts =>
    rw [halts] at ended
    exact .of_ending ended (by simp)
  | limited halts =>
    rw [halts] at ended
    exact .of_ending ended (by simp)

/-- What is asked belongs to an exclusive edge. -/
theorem Regular.exists_of_demand_eq_ask {flow : Flow σ ε} (h : flow.Regular) {state : State}
    {event : Event} (asks : flow.demand state = .ask event) :
    ∃ transition ∈ flow.table.transitions, transition.isExclusive = true ∧
      transition.source = event := by
  have spec := h.steady.demand_spec state
  rw [asks] at spec
  cases spec with
  | exclusive halts pending found exclusive =>
    exact ⟨_, (h.mem_of_lookup found).1, exclusive, rfl⟩

theorem Related.demand_eq {flow' flow : Flow σ ε} (h : flow'.Related Transition.SameEdge flow)
    (state : State) : flow'.demand state = flow.demand state := by
  unfold demand
  rw [h.haltOf_eq, h.config]
  rcases flow.haltOf state with last | next | frontier
  · have found := h.lookup Transition.SameEdge.source last
    simp only [h.isCompleted_eq]
    generalize flow'.table.lookup last = found', flow.table.lookup last = found₀ at found
    cases found with
    | none => rfl
    | some same => simp only [same.source]
  · rfl
  · rfl

end Flow

/-! ## Meeting a demand -/

/-- A call that began on the context has met the demand with these invocations and this result. -/
inductive Demand.Met (context : σ) :
    Demand ι ε → List (Invocation ι σ ε) → CallResult ε × σ → Prop
  | answer {result : CallResult ε} (own : ∀ cause, result ≠ .error (.callable cause)) :
    Met context (.answer result) [] (result, context)
  | ask {place : ι} {failure : Option ε} {added : List (Invocation ι σ ε)}
    {result : CallResult ε × σ} (runs : RunsOnce place context failure added)
    (succeeded : failure = none → ∃ next, result.1 = .ok next) :
    Met context (.ask place) added result

namespace Flow

/-- The recorded call is the call of the flow with these invocations, and they meet the demand. -/
def MetBy (flow : Flow σ ε) (recording : Flow (Journaled ι σ ε) ε) (state : State) (context : σ)
    (journal : List (Invocation ι σ ε)) (demand : Demand ι ε) : Prop :=
  ∃ added, recording.apply state (context, journal) =
      ((flow.apply state context).1, ((flow.apply state context).2, journal ++ added)) ∧
    demand.Met context added (flow.apply state context)

/-- Each exclusive edge runs one function, at the place that belongs to the event it leaves. -/
def RunsAt (recording : Flow (Journaled ι σ ε) ε) (place : Event → ι) : Prop :=
  ∀ transition ∈ recording.table.transitions, transition.isExclusive = true →
    transition.RunsAt (place transition.source)

/-- Every call meets the demand of its state. -/
theorem RunsAt.metBy_demand {flow : Flow σ ε} {recording : Flow (Journaled ι σ ε) ε}
    {place : Event → ι} (runsAt : recording.RunsAt place) (regular : recording.Regular)
    (mirrors : recording.Mirrors flow) (state : State) (context : σ)
    (journal : List (Invocation ι σ ε)) :
    flow.MetBy recording state context journal ((recording.demand state).map place) := by
  obtain ⟨added, applied⟩ := mirrors.apply state context journal
  refine ⟨added, applied, ?_⟩
  have spec := regular.apply_spec state (context, journal)
  rw [applied] at spec
  generalize flow.apply state context = answered at spec ⊢
  obtain ⟨result, after⟩ := answered
  generalize recording.demand state = demand,
    outcome : (result, (after, journal ++ added)) = recorded at spec
  cases spec with
  | answers own =>
    -- A call that leaves the journal as it was has added nothing to it.
    simp only [Prod.mk.injEq, List.append_right_eq_self] at outcome
    obtain ⟨rfl, rfl, rfl⟩ := outcome
    exact .answer own
  | @takes transition mem exclusive =>
    obtain ⟨answer, final, failure, noted, taken, runs, succeeded⟩ :=
      runsAt transition mem exclusive context journal
    simp only [taken, Prod.mk.injEq, List.append_cancel_left_eq] at outcome
    obtain ⟨rfl, rfl, rfl⟩ := outcome
    refine .ask runs fun none => ?_
    obtain ⟨events, rfl⟩ := succeeded none
    exact ⟨.ofEvents events, rfl⟩

theorem MetBy.ask_of_callable {flow : Flow σ ε} {recording : Flow (Journaled ι σ ε) ε}
    {state : State} {context : σ} {journal : List (Invocation ι σ ε)} {demand : Demand ι ε}
    {cause : ε} (met : flow.MetBy recording state context journal demand)
    (failed : (flow.apply state context).1 = .error (.callable cause)) : ∃ place first added,
    demand = .ask place ∧
      recording.call ⟨state, (context, journal)⟩ = (.error (.callable cause),
        ⟨state, ((flow.apply state context).2, journal ++ added)⟩) ∧
      RunsOnce place context (some first) added := by
  obtain ⟨added, applied, met⟩ := met
  have called : recording.call ⟨state, (context, journal)⟩ = (.error (.callable cause),
      ⟨state, ((flow.apply state context).2, journal ++ added)⟩) := by
    simp only [Flow.call, applied, failed]
  generalize flow.apply state context = answered at met failed called
  cases met with
  | answer own => exact absurd failed (own cause)
  | @ask place failure _ _ runs succeeded =>
    -- A function that has not failed leaves a call that has not failed.
    obtain ⟨first, rfl⟩ : ∃ first, failure = some first := by
      rcases failure with _ | first
      · obtain ⟨next, answered⟩ := succeeded rfl
        rw [failed] at answered
        cases answered
      · exact ⟨first, rfl⟩
    exact ⟨place, first, added, rfl, called, runs⟩

/-- The function that belongs to an event is found by the edge that leaves it. -/
theorem Regular.exists_place {flow : Flow σ ε} (h : flow.Regular) {κ : Type} [Inhabited κ]
    {P : Transition σ ε → κ → Prop}
    (total : ∀ transition ∈ flow.table.transitions, transition.isExclusive = true →
      ∃ place, P transition place) :
    ∃ place : Event → κ, ∀ transition ∈ flow.table.transitions, transition.isExclusive = true →
      P transition (place transition.source) := by
  choose! place property using total
  refine ⟨fun event => ((flow.table.lookup (.ofEvents [event])).map place).getD default,
    fun transition mem exclusive => ?_⟩
  show P transition
    (((flow.table.lookup (.ofEvents [transition.source])).map place).getD default)
  rw [h.lookup_source mem]
  exact property transition mem exclusive

end Flow

/-! ## Trees -/

namespace Item

/-- The tree has an activity or a condition at the address. -/
def AsksAt (root : Item σ ε) (place : List Nat) : Prop :=
  ∃ item, root.at? place = some item ∧ item.asks = true

/-- What is known of the calls of a tree from a state before anything runs. What is invoked is told
by the recorded tree. -/
structure MeetsIn (root : Item σ ε) (flow : Flow σ ε)
    (recording : Flow (Journaled (List Nat) σ ε) ε) (state : State)
    (demand : Demand (List Nat) ε) : Prop where
  owner : ∀ place, demand = .ask place → root.AsksAt place
  call : ∀ context journal, flow.MetBy recording state context journal demand
  /-- When a call fails with its function, the calls from the state that it leaves ask that very
  function, on any later context, and nothing before it. -/
  resubmission : ∀ context journal cause,
    (flow.apply state context).1 = .error (.callable cause) → ∃ place first added,
      recording.call ⟨state, (context, journal)⟩ = (.error (.callable cause),
        ⟨state, ((flow.apply state context).2, journal ++ added)⟩) ∧
      RunsOnce place context (some first) added ∧
      ∀ later journal, flow.MetBy recording state later journal (.ask place)

/-- The calls of the tree from the state meet the demand. -/
def Meets (root : Item σ ε) (config : Config) (state : State) (demand : Demand (List Nat) ε) :
    Prop :=
  ∃ flow recording, Flow.compile root config = .ok flow ∧
    Flow.compile (root.recorded []) config = .ok recording ∧
    root.MeetsIn flow recording state demand

end Item

/-- The recorded tree compiles to a regular flow, too. -/
theorem Flow.exists_recording {root : Item σ ε} {config : Config} {flow : Flow σ ε}
    (builtIn : root.isBuiltIn = true) (compiles : Flow.compile root config = .ok flow) :
    ∃ recording, Flow.compile (root.recorded []) config = .ok recording ∧
      recording.Mirrors flow ∧ recording.Regular := by
  obtain ⟨recording, compilesRecording, mirrors⟩ := Flow.exists_mirrors compiles []
  have builtInRecorded : (root.recorded []).isBuiltIn = true := by
    rw [root.isBuiltIn_recorded, builtIn]
  exact ⟨recording, compilesRecording, mirrors,
    regular_of_compile builtInRecorded compilesRecording⟩

/-- Each exclusive edge of the recorded tree runs the function of one item. -/
theorem Flow.exists_runsAt {root : Item σ ε} {config : Config}
    {recording : Flow (Journaled (List Nat) σ ε) ε} (builtIn : root.isBuiltIn = true)
    (compiles : Flow.compile (root.recorded []) config = .ok recording)
    (regular : recording.Regular) :
    ∃ place : Event → List Nat, recording.RunsAt place ∧
      ∀ transition ∈ recording.table.transitions, transition.isExclusive = true →
        root.AsksAt (place transition.source) := by
  have builtInRecorded : (root.recorded []).isBuiltIn = true := by
    rw [root.isBuiltIn_recorded, builtIn]
  obtain ⟨compiled, compilesRoot, rfl⟩ := Flow.compile_eq_ok_iff.mp compiles
  have total : ∀ transition ∈ compiled.transitions, transition.isExclusive = true →
      ∃ place, transition.RunsAt place ∧ root.AsksAt place := by
    intro transition mem exclusive
    obtain ⟨place, owner, found, asks, runs⟩ :=
      (Item.emits_of_compile builtInRecorded compilesRoot transition mem exclusive).runsAt
    exact ⟨place, runs, owner, found, asks⟩
  obtain ⟨place, property⟩ := regular.exists_place total
  exact ⟨place, fun transition mem exclusive => (property transition mem exclusive).1,
    fun transition mem exclusive => (property transition mem exclusive).2⟩

theorem Flow.RunsAt.meetsIn {root : Item σ ε} {flow : Flow σ ε}
    {recording : Flow (Journaled (List Nat) σ ε) ε} {place : Event → List Nat}
    (runsAt : recording.RunsAt place) (regular : recording.Regular)
    (mirrors : recording.Mirrors flow)
    (owner : ∀ transition ∈ recording.table.transitions, transition.isExclusive = true →
      root.AsksAt (place transition.source)) (state : State) :
    root.MeetsIn flow recording state ((recording.demand state).map place) where
  owner := by
    intro asked asks
    rcases demanded : recording.demand state with result | event <;> rw [demanded] at asks
    · cases asks
    · obtain rfl := Demand.ask.inj asks
      obtain ⟨transition, mem, exclusive, rfl⟩ := regular.exists_of_demand_eq_ask demanded
      exact owner transition mem exclusive
  call := runsAt.metBy_demand regular mirrors state
  resubmission := by
    intro context journal cause failed
    obtain ⟨asked, first, added, asks, called, runs⟩ :=
      (runsAt.metBy_demand regular mirrors state context journal).ask_of_callable failed
    refine ⟨asked, first, added, called, runs, fun later journal => ?_⟩
    rw [← asks]
    exact runsAt.metBy_demand regular mirrors state later journal

theorem Item.SameShape.asksAt {root other : Item σ ε} (h : root.SameShape other)
    {place : List Nat} (asks : root.AsksAt place) : other.AsksAt place := by
  obtain ⟨item, found, asks⟩ := asks
  obtain ⟨item', found', same⟩ := Corresponds.at? place h found
  exact ⟨item', found', same.asks_eq.trans asks⟩

namespace Flow

/-- An edge of one of the flows is found in the other one by the event that it leaves. -/
theorem Regular.exists_of_related {R : Transition σ ε → Transition σ ε → Prop}
    {flow' flow : Flow σ ε} (h' : flow'.Regular) (h : flow.Regular) (related : flow'.Related R flow)
    (source : ∀ {a b}, R a b → a.source = b.source) {transition' : Transition σ ε}
    (mem : transition' ∈ flow'.table.transitions) :
    ∃ transition ∈ flow.table.transitions, R transition' transition := by
  have found := related.lookup source (.ofEvents [transition'.source])
  rw [h'.lookup_source mem] at found
  generalize foundPlain : flow.table.lookup (.ofEvents [transition'.source]) = plain at found
  cases found with
  | some same => exact ⟨_, (h.mem_of_lookup foundPlain).1, same⟩

/-- The edges of a tree of the same shape run their functions at the same addresses. -/
theorem RunsAt.of_related {recording' recording : Flow (Journaled ι σ ε) ε}
    {place own : Event → ι} (runsAt : recording.RunsAt place) (regular : recording.Regular)
    (regular' : recording'.Regular) (related : recording'.Related Transition.SameRun recording)
    (runsOwn : recording'.RunsAt own) : recording'.RunsAt place := by
  intro transition' mem' exclusive'
  obtain ⟨transition, mem, same⟩ :=
    regular'.exists_of_related regular related (fun same => same.source) mem'
  have exclusive : transition.isExclusive = true := same.exclusive.symm.trans exclusive'
  rw [same.source]
  exact same.runsAt exclusive (runsAt transition mem exclusive)
    (runsOwn transition' mem' exclusive')

/-- What a call from a state invokes, and what it answers if that is nothing, is told by the shape
of the tree and the settings, whatever the functions in the tree and whatever the context. -/
theorem meets_demand_of_compile {root : Item σ ε} {config : Config} {flow : Flow σ ε}
    (builtIn : root.isBuiltIn = true) (compiles : Flow.compile root config = .ok flow)
    (state : State) : ∃ demand, root.Meets config state demand ∧
      ∀ other, root.SameShape other → other.Meets config state demand := by
  obtain ⟨recording, compilesRecording, mirrors, regular⟩ := exists_recording builtIn compiles
  obtain ⟨place, runsAt, owner⟩ := exists_runsAt builtIn compilesRecording regular
  refine ⟨(recording.demand state).map place, ?_, fun other same => ?_⟩
  · exact ⟨flow, recording, compiles, compilesRecording,
      runsAt.meetsIn regular mirrors owner state⟩
  · have builtInOther : other.isBuiltIn = true := same.isBuiltIn_eq.trans builtIn
    obtain ⟨flow', compilesOther, _⟩ := same.compileFlow compiles
    obtain ⟨recording', compilesRecording', mirrors', regular'⟩ :=
      exists_recording builtInOther compilesOther
    obtain ⟨own, runsOwn, _⟩ := exists_runsAt builtInOther compilesRecording' regular'
    have related : recording'.Related Transition.SameRun recording := by
      obtain ⟨noted, compilesNoted, related⟩ := (same.recorded []).compileFlow compilesRecording
      rw [compilesRecording'] at compilesNoted
      rwa [Except.ok.inj compilesNoted]
    have owner' : ∀ transition' ∈ recording'.table.transitions, transition'.isExclusive = true →
        other.AsksAt (place transition'.source) := by
      intro transition' mem' exclusive'
      obtain ⟨transition, mem, sameRun⟩ :=
        regular'.exists_of_related regular related (fun sameRun => sameRun.source) mem'
      rw [sameRun.source]
      exact same.asksAt (owner transition mem (sameRun.exclusive.symm.trans exclusive'))
    have sameDemand : recording'.demand state = recording.demand state :=
      (related.imp fun _ _ sameRun => sameRun.toSameEdge).demand_eq state
    refine ⟨flow', recording', compilesOther, compilesRecording', ?_⟩
    rw [← sameDemand]
    exact (runsAt.of_related regular regular' related runsOwn).meetsIn regular' mirrors' owner'
      state

/-- The part of the deployment that uploads, in the given way. -/
def uploading (upload : Callable Deployment String Unit) : Item Deployment String :=
  .retry (.steps "upload" [.activity "put" upload]) Deployment.retryUpload

theorem meets_demand_of_compile_uploading :
    (uploading Deployment.upload).isBuiltIn = true ∧
      (∃ flow, Flow.compile (uploading Deployment.upload) = .ok flow) ∧
      (uploading Deployment.upload).Meets {} .empty (.ask [0, 0]) ∧
      (uploading fun data => (.error "offline", data)).Meets {} .empty (.ask [0, 0]) := by
  obtain ⟨flow, compiles⟩ : ∃ flow, Flow.compile (uploading Deployment.upload) = .ok flow :=
    ⟨_, rfl⟩
  have builtIn : (uploading Deployment.upload).isBuiltIn = true := rfl
  have same : (uploading Deployment.upload).SameShape (uploading fun data =>
      (.error "offline", data)) :=
    .retry (.steps _ (.cons (.activity _ trivial) .nil)) fun _ => trivial
  obtain ⟨demand, meets, others⟩ := meets_demand_of_compile builtIn compiles .empty
  -- A call on some context shows which demand it is.
  obtain rfl : demand = .ask [0, 0] := by
    obtain ⟨flow', recording, _, compilesRecording, meetsIn⟩ := meets
    obtain ⟨added, applied, met⟩ := meetsIn.call {} []
    have noted : ((recording.apply .empty ({}, [])).2.2.map Invocation.place).head? =
        some [0, 0] := by
      rw [← Except.ok.inj compilesRecording]
      decide +kernel
    rw [applied] at noted
    generalize flow'.apply .empty {} = answered at met
    cases met with
    | answer own => cases noted
    | ask runs succeeded =>
      obtain ⟨_, _, rfl, _⟩ := runs.eq_cons
      cases noted
      rfl
  exact ⟨builtIn, ⟨flow, compiles⟩, meets, others _ same⟩

end Flow

end ResumableFlow
