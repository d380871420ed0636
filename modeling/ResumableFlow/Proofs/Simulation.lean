import ResumableFlow.Proofs.Driving
import ResumableFlow.Proofs.RecordedTrees

/-!
# Driving a flow executes the tree

The direct execution of a tree and the calls of its flow make the same moves through the compiled
list: the first one by induction on the tree (`Item.followsCases`), the second one by induction on
the calls (`Flow.Regular.progress_follows`). As there is one way to go on from each point, they
agree. Read with contexts that carry a journal, this says that both invoke the same functions in
the same order (`drives_iff_runs`).
-/

namespace ResumableFlow

variable {σ ε : Type}

/-! ## The direct execution -/

namespace Follows

variable {transitions : List (Transition σ ε)} {exit : Event} {body : Execution σ ε} {rounds : Nat}

/-- Each round of a loop makes at least one move: it asks the condition. -/
theorem repeatUntil {restart asked : Event} {options : List Destination}
    {condition : Callable σ ε Bool}
    (mem : .branch asked options condition [exit] [restart] ∈ transitions)
    (h : ∀ context, Follows transitions asked rounds (restart, context) (body context))
    (left : Nat) : left ≤ rounds → ∀ context, Follows transitions exit left (restart, context)
      (Execution.repeatUntil body condition left context) := by
  induction left with
  | zero =>
    intro _ context
    exact .pause _
  | succ left ih =>
    intro le context
    have bodyFollows := (h context).mono le
    refine bodyFollows.andThen fun after => ?_
    exact .ask after mem (fun _ => .done _) (ih (Nat.le_of_succ_le le))

/-- Each round of a retry makes at least one move: the handler leads back. -/
theorem retrying {start : Event} {handler : Handler σ ε}
    (h : ∀ context, Follows transitions exit rounds (start, context) (body context))
    (left : Nat) : left ≤ rounds → ∀ context,
      Follows (transitions.map fun transition => .guarded transition start handler) exit left
        (start, context) (Execution.retrying body handler left context) := by
  induction left with
  | zero =>
    intro _ context
    exact .pause _
  | succ left ih =>
    intro le context
    have bodyFollows := (h context).mono le
    exact bodyFollows.rescue (ih (Nat.le_of_succ_le le))

end Follows

namespace Item

/-- The execution of each kind of item follows its compiled list if those of its parts do. -/
theorem followsCases : CompileCases (σ := σ) (ε := ε)
    (fun _ item compiled => item.isBuiltIn = true → ∀ rounds context,
      Follows compiled.transitions compiled.scope.completed rounds (compiled.scope.start, context)
        (item.run rounds context))
    (fun scope _ last items transitions => areBuiltIn items = true → ∀ rounds context,
      Follows transitions scope.completed rounds (last, context)
        (runSteps rounds items context)) where
  activity := by
    intro parent name run _ _ rounds context
    have mem : Transition.chosen (Scope.nest parent name).start true
        [⟨(Scope.nest parent name).completed, "completed"⟩]
        (run.map fun _ => [(Scope.nest parent name).completed]) ∈
        (Compiled.activity (.nest parent name) run).transitions := List.mem_cons_self
    rw [Item.run, Execution.attempt]
    rcases ran : run context with ⟨cause | _, after⟩
    · exact .ended (.refl _) (.failed mem rfl (by simp only [Transition.take, Callable.map, ran]))
    · exact .ended (.single mem rfl (by simp only [Transition.take, Callable.map, ran]; rfl))
        .completed
  steps := fun _ chain builtIn => chain builtIn
  gate := by
    intro parent name body condition inner _ follows builtIn rounds context
    let whole := (Compiled.gate (.nest parent name) inner condition).transitions
    have sub : inner.transitions ⊆ whole := inner.subset_gate _ condition
    have leaves := inner.leave_mem_gate (.nest parent name) condition
    have passes : Follows whole (Scope.nest parent name).completed (rounds + 1)
        ((Scope.nest parent name).start, context)
        (Execution.ask condition (body.run rounds) Execution.done context) :=
      .ask context List.mem_cons_self
        (fun after => ((follows builtIn rounds after).of_subset sub).leave leaves)
        (fun _ => .done _)
    exact passes.mono (Nat.le_succ rounds)
  loopUntil := by
    intro parent name body condition inner _ follows builtIn rounds context
    let whole := (Compiled.loopUntil (.nest parent name) inner condition).transitions
    have sub : inner.transitions ⊆ whole := inner.subset_loopUntil _ condition
    have asks := inner.ask_mem_loopUntil (.nest parent name) condition
    have enters : Reaches whole 1 ((Scope.nest parent name).start, context)
        (inner.scope.start, context) := .single List.mem_cons_self rfl rfl
    have loops := Follows.repeatUntil asks
      (fun after => (follows builtIn rounds after).of_subset sub) rounds (Nat.le_refl _) context
    exact (loops.after enters).mono (Nat.le_add_left _ _)
  retry := by
    intro parent body handler inner follows builtIn rounds context
    exact Follows.retrying (follows builtIn rounds) rounds (Nat.le_refl _) context
  waitFor := by
    intro parent name condition _ _ rounds context
    exact Follows.repeatUntil List.mem_cons_self (fun _ => .done _) rounds (Nat.le_refl _) context
  custom := by
    intro parent name compile compiled _ builtIn
    cases builtIn
  nil := by
    intro scope taken last _ rounds context
    exact .ended (.single List.mem_cons_self rfl rfl) .completed
  cons := by
    intro scope taken last item items child following follows _ chain builtIn rounds context
    rw [areBuiltIn, Bool.and_eq_true] at builtIn
    let whole := Transition.fixed last child.scope.start :: (child.transitions ++ following)
    have subChild : child.transitions ⊆ whole := subset_link_left _ _ following
    have subFollowing : following ⊆ whole := subset_link_right _ child.transitions following
    have enters : Reaches whole 1 (last, context) (child.scope.start, context) :=
      .single List.mem_cons_self rfl rfl
    have first := (follows builtIn.1 rounds context).of_subset subChild
    have both := first.andThen fun after => (chain builtIn.2 rounds after).of_subset subFollowing
    exact (both.after enters).mono (Nat.le_add_left _ _)

theorem run_follows {item : Item σ ε} {parent : Option Scope} {compiled : Compiled σ ε}
    (builtIn : item.isBuiltIn = true) (compiles : item.compile parent = .ok compiled)
    (rounds : Nat) (context : σ) :
    Follows compiled.transitions compiled.scope.completed rounds (compiled.scope.start, context)
      (item.run rounds context) :=
  followsCases.induct item compiles builtIn rounds context

end Item

/-! ## Journals along moves -/

section journals

variable {ι : Type} {transitions : List (Transition (Journaled ι σ ε) ε)} {exit : Event}

theorem journal_grows {plain : List (Transition σ ε)}
    (mirrors : List.Forall₂ Transition.Mirrors transitions plain) :
    ∀ transition ∈ transitions, ∀ point, point.2 <+: (transition.take point).2.2 := by
  intro transition mem
  obtain ⟨index, bound, rfl⟩ := List.getElem_of_mem mem
  rintro ⟨context, journal⟩
  have bound' : index < plain.length := mirrors.length_eq ▸ bound
  have mirrored := (List.forall₂_iff_get.mp mirrors).2 index bound bound'
  obtain ⟨added, eq⟩ := mirrored.take context journal
  rw [List.get_eq_getElem] at eq
  exact ⟨added, by rw [eq]⟩

variable (grows : ∀ transition ∈ transitions, ∀ point, point.2 <+: (transition.take point).2.2)

include grows in
theorem Reaches.journal_grows {count : Nat} {a b : Event × Journaled ι σ ε}
    (h : Reaches transitions count a b) : a.2.2 <+: b.2.2 := by
  induction h with
  | refl => exact List.prefix_refl _
  | @step _ _ _ context between _ transition mem _ taken _ ih =>
    have grown := grows transition mem context
    rw [taken] at grown
    exact grown.trans ih

include grows in
theorem Ends.journal_grows {point : Event × Journaled ι σ ε}
    {result : Progress ε × Journaled ι σ ε} (h : Ends transitions exit point result) :
    point.2.2 <+: result.2.2 := by
  cases h with
  | completed => exact List.prefix_refl _
  | @failed _ context after transition cause mem _ fails =>
    have grown := grows transition mem context
    rw [fails] at grown
    exact grown

include grows in
/-- Every execution with enough fuel invokes all that one of them does, in the same order. -/
theorem Follows.overtaken {least : Nat} {point : Event × Journaled ι σ ε}
    {result : Progress ε × Journaled ι σ ε} (nodup : (sourcesOf transitions).Nodup)
    (final : exit ∉ sourcesOf transitions) (h : Follows transitions exit least point result) :
    ∃ bound, ∀ fuel, bound ≤ fuel → ∀ other, Follows transitions exit fuel point other →
      result.2.2 <+: other.2.2 := by
  cases h with
  | ended reaches ends =>
    have follows : Follows transitions exit least point result := .ended reaches ends
    obtain ⟨bound, agree⟩ := follows.agree nodup final ends.not_paused
    exact ⟨bound, fun fuel enough other follows => by rw [agree fuel enough other follows]⟩
  | @paused count event after reaches _ =>
    refine ⟨count, fun fuel enough other follows => ?_⟩
    cases follows with
    | @ended countOther _ _ reachesOther endsOther =>
      -- The other execution cannot have ended before the point that this one has got to.
      have earlier : count ≤ countOther := by
        by_contra later
        have past := reachesOther.split nodup reaches (by omega)
        have rest := endsOther.count_eq_zero nodup final past
        omega
      have rest := reaches.split nodup reachesOther earlier
      exact (rest.journal_grows grows).trans (endsOther.journal_grows grows)
    | @paused countOther _ _ reachesOther enoughOther =>
      exact (reaches.split nodup reachesOther (by omega)).journal_grows grows

end journals

/-! ## The two executions agree -/

/-- Driven from the empty state on the context, the flow ends just where the direct execution of
the tree ends: with the same outcome and the same context. -/
def Flow.EndsAs (flow : Flow σ ε) (tree : Item σ ε) (context : σ) : Prop :=
  ∀ outcome after, outcome ≠ .paused →
    ((∃ calls, flow.progress calls .empty context = (outcome, after)) ↔
      ∃ rounds, Prod.map (Progress.map .callable) id (tree.run rounds context) = (outcome, after))

theorem Progress.not_paused_of_map {ε' : Type} {f : ε → ε'} {result : Progress ε × σ}
    {outcome : Progress ε'} {after : σ}
    (eq : Prod.map (Progress.map f) id result = (outcome, after)) (unpaused : outcome ≠ .paused) :
    result.1 ≠ .paused := by
  intro paused
  have outcomes := congrArg Prod.fst eq
  rw [Prod.map_fst, paused] at outcomes
  exact unpaused outcomes.symm

theorem Flow.endsAs_of_compile {root : Item σ ε} {config : Config} {flow : Flow σ ε}
    (builtIn : root.isBuiltIn = true) (compiles : Flow.compile root config = .ok flow)
    (policy : config.onLimit = .yield) (context : σ) : flow.EndsAs root context := by
  have h := regular_of_compile builtIn compiles
  obtain ⟨compiled, compilesRoot, rfl⟩ := compile_eq_ok_iff.mp compiles
  intro outcome after unpaused
  constructor
  · rintro ⟨calls, ended⟩
    obtain ⟨result, follows, progressed⟩ := h.progress_empty_follows policy calls context
    rw [progressed] at ended
    obtain ⟨bound, agree⟩ :=
      follows.agree h.nodup h.completed_not_mem (Progress.not_paused_of_map ended unpaused)
    refine ⟨bound, ?_⟩
    rw [agree bound (Nat.le_refl _) _ (Item.run_follows builtIn compilesRoot bound context)]
    exact ended
  · rintro ⟨rounds, ended⟩
    have follows := Item.run_follows builtIn compilesRoot rounds context
    obtain ⟨bound, agree⟩ :=
      follows.agree h.nodup h.completed_not_mem (Progress.not_paused_of_map ended unpaused)
    obtain ⟨result, followsDrive, progressed⟩ := h.progress_empty_follows policy bound context
    refine ⟨bound, ?_⟩
    rw [progressed, agree bound (Nat.le_refl _) result followsDrive]
    exact ended

/-- Driving the flow of a tree executes the tree. Where one of the two executions ends, the other
one ends with the same outcome and context, and the same functions have been invoked in the same
order on the same contexts. Where they do not end, each one invokes, given time, what the other
one does. -/
theorem drives_iff_runs {root : Item σ ε} {config : Config} {flow : Flow σ ε}
    (builtIn : root.isBuiltIn = true) (compiles : Flow.compile root config = .ok flow)
    (policy : config.onLimit = .yield) (context : σ) :
    flow.EndsAs root context ∧ ∃ recording,
      Flow.compile (root.recorded []) config = .ok recording ∧
      (∀ calls, Records (recording.progress calls .empty) (flow.progress calls .empty)) ∧
      (∀ rounds, Records ((root.recorded []).run rounds) (root.run rounds)) ∧
      recording.EndsAs (root.recorded []) (context, []) ∧
      (∀ calls, ∃ rounds, (recording.progress calls .empty (context, [])).2.2 <+:
        ((root.recorded []).run rounds (context, [])).2.2) ∧
      ∀ rounds, ∃ calls, ((root.recorded []).run rounds (context, [])).2.2 <+:
        (recording.progress calls .empty (context, [])).2.2 := by
  obtain ⟨recording, compilesRecording, mirrors⟩ := Flow.exists_mirrors compiles []
  have builtInRecorded : (root.recorded []).isBuiltIn = true := by
    rw [root.isBuiltIn_recorded, builtIn]
  have h := Flow.regular_of_compile builtInRecorded compilesRecording
  refine ⟨Flow.endsAs_of_compile builtIn compiles policy context, recording, compilesRecording,
    fun calls => mirrors.progress calls .empty, fun rounds => root.records_run rounds [],
    Flow.endsAs_of_compile builtInRecorded compilesRecording policy (context, []), ?_⟩
  obtain ⟨compiled, compilesRoot, rfl⟩ := Flow.compile_eq_ok_iff.mp compilesRecording
  have grows := journal_grows mirrors.transitions
  constructor
  · intro calls
    obtain ⟨result, follows, progressed⟩ := h.progress_empty_follows policy calls (context, [])
    obtain ⟨bound, overtaken⟩ := follows.overtaken grows h.nodup h.completed_not_mem
    refine ⟨bound, ?_⟩
    rw [progressed]
    exact overtaken bound (Nat.le_refl _) _
      (Item.run_follows builtInRecorded compilesRoot bound (context, []))
  · intro rounds
    have follows := Item.run_follows builtInRecorded compilesRoot rounds (context, [])
    obtain ⟨bound, overtaken⟩ := follows.overtaken grows h.nodup h.completed_not_mem
    obtain ⟨result, followsDrive, progressed⟩ := h.progress_empty_follows policy bound (context, [])
    refine ⟨bound, ?_⟩
    rw [progressed]
    exact overtaken bound (Nat.le_refl _) result followsDrive

theorem drives_iff_runs_deployment : ∃ flow, Deployment.flow ⟨2, .yield⟩ = .ok flow ∧
    flow.EndsAs Deployment.item {} ∧
      ∃ calls after, flow.progress calls .empty {} = (.completed, after) := by
  obtain ⟨flow, compiles⟩ : ∃ flow, Deployment.flow ⟨2, .yield⟩ = .ok flow := ⟨_, rfl⟩
  have builtIn : Deployment.item.isBuiltIn = true := rfl
  have agrees := (drives_iff_runs builtIn compiles rfl {}).1
  have ran : (Deployment.item.run 4 {}).1 = .completed := by decide +kernel
  have ended : Prod.map (Progress.map .callable) id (Deployment.item.run 4 {}) =
      ((.completed : Progress (FlowError String)), (Deployment.item.run 4 {}).2) := by
    rw [Prod.map, ran]
    rfl
  obtain ⟨calls, driven⟩ := (agrees .completed _ (by decide)).mpr ⟨4, ended⟩
  exact ⟨flow, compiles, agrees, calls, _, driven⟩

end ResumableFlow
