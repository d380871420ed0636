import Mathlib.Data.List.Nodup
import ResumableFlow.Proofs.Calls
import ResumableFlow.Proofs.Stretches

/-!
# Silent cycles

Following silent edges from a state gives a sequence of frontiers that ends or goes on for ever.
A call with a limit above the number of silent edges tells the two apart
(`staticCycle_iff_endless`): it complains about a cycle just where the sequence goes on for ever,
and never stops at the limit.

The state that a call is given may be any list of texts, but all frontiers behind it are targets
of silent edges. So no more different frontiers can follow it than there are such edges
(`Flow.Trail.count_le`), and this also holds if several edges leave one event.
-/

namespace ResumableFlow

variable {σ ε : Type}

namespace Flow

/-- The frontier after a number of silent edges from a state. -/
def stretch (flow : Flow σ ε) (state : State) : Nat → Option State
  | 0 => some (flow.entry state)
  | count + 1 => (flow.stretch state count).bind flow.successor

/-- Silent edges lead on for ever. -/
def Endless (flow : Flow σ ε) (state : State) : Prop :=
  ∀ count, ∃ frontier, flow.stretch state count = some frontier

/-- No frontier comes a second time before this one does. -/
def FirstRepeated (flow : Flow σ ε) (state frontier : State) : Prop :=
  ∃ first again, first < again ∧ flow.stretch state first = some frontier ∧
    flow.stretch state again = some frontier ∧
    ∀ i j, i < j → j < again → flow.stretch state i ≠ flow.stretch state j

def silentEdges (flow : Flow σ ε) : List (Transition σ ε) :=
  flow.table.transitions.filter fun transition => !transition.isExclusive

section stretch

variable {flow : Flow σ ε} {state : State}

theorem stretch_none_of_le {count later : Nat} (le : count ≤ later)
    (h : flow.stretch state count = none) : flow.stretch state later = none := by
  induction later, le using Nat.le_induction with
  | base => exact h
  | succ later _ ih =>
    rw [stretch, ih]
    rfl

theorem stretch_add_eq {i j : Nat} (same : flow.stretch state i = flow.stretch state j)
    (more : Nat) : flow.stretch state (i + more) = flow.stretch state (j + more) := by
  induction more with
  | zero => exact same
  | succ more ih =>
    rw [← Nat.add_assoc, ← Nat.add_assoc, stretch, stretch, ih]

theorem FirstRepeated.endless {frontier : State} (h : flow.FirstRepeated state frontier) :
    flow.Endless state := by
  obtain ⟨first, again, before, atFirst, atAgain, _⟩ := h
  have same : flow.stretch state first = flow.stretch state again := atFirst.trans atAgain.symm
  have never : ∀ count, flow.stretch state count ≠ none := by
    intro count
    induction count using Nat.strongRecOn with
    | ind count ih =>
      intro ended
      rcases Nat.le_total count again with le | le
      · have := stretch_none_of_le le ended
        rw [atAgain] at this
        cases this
      · -- What comes behind the repetition has come before it.
        obtain ⟨more, rfl⟩ := Nat.exists_eq_add_of_le le
        rw [← stretch_add_eq same more] at ended
        exact ih (first + more) (by omega) ended
  intro count
  exact Option.ne_none_iff_exists'.mp (never count)

theorem Steady.endless_iff (h : flow.Steady) : flow.Endless state ↔
    ∀ count frontier, flow.stretch state count = some frontier → ¬flow.StopsAt frontier := by
  constructor
  · intro endless count frontier here stops
    obtain ⟨next, there⟩ := endless (count + 1)
    rw [stretch, here, Option.bind_some, h.successor_eq_none_iff.mpr stops] at there
    cases there
  · intro goesOn count
    induction count with
    | zero => exact ⟨_, rfl⟩
    | succ count ih =>
      obtain ⟨frontier, here⟩ := ih
      have moving : flow.successor frontier ≠ none :=
        mt h.successor_eq_none_iff.mp (goesOn count frontier here)
      rw [stretch, here]
      exact Option.ne_none_iff_exists'.mp moving

end stretch

/-! ## Frontiers that were seen -/

/-- The walk has made `count` moves, is at the frontier and has seen just the frontiers on the way,
each of them once. -/
structure Trail (flow : Flow σ ε) (state : State) (count : Nat) (seen : List State)
    (frontier : State) : Prop where
  here : flow.stretch state count = some frontier
  mem_seen : ∀ earlier, earlier ∈ seen ↔ ∃ i ≤ count, flow.stretch state i = some earlier
  distinct : ∀ i j, i < j → j ≤ count → flow.stretch state i ≠ flow.stretch state j

namespace Trail

variable {flow : Flow σ ε} {state frontier next : State} {count : Nat} {seen : List State}

theorem start (flow : Flow σ ε) (state : State) :
    flow.Trail state 0 [flow.entry state] (flow.entry state) where
  here := rfl
  mem_seen := by
    intro earlier
    rw [List.mem_singleton]
    constructor
    · rintro rfl
      exact ⟨0, Nat.le_refl 0, rfl⟩
    · rintro ⟨i, le, at_i⟩
      obtain rfl := Nat.le_zero.mp le
      exact (Option.some.inj at_i).symm
  distinct := by
    intro i j lt le
    omega

theorem next_eq (h : flow.Trail state count seen frontier)
    (passes : flow.successor frontier = some next) :
    flow.stretch state (count + 1) = some next := by
  rw [stretch, h.here]
  exact passes

theorem pass (h : flow.Trail state count seen frontier)
    (passes : flow.successor frontier = some next) (fresh : next ∉ seen) :
    flow.Trail state (count + 1) (next :: seen) next where
  here := h.next_eq passes
  mem_seen := by
    intro earlier
    rw [List.mem_cons, h.mem_seen]
    constructor
    · rintro (rfl | ⟨i, le, at_i⟩)
      · exact ⟨count + 1, Nat.le_refl _, h.next_eq passes⟩
      · exact ⟨i, Nat.le_succ_of_le le, at_i⟩
    · rintro ⟨i, le, at_i⟩
      rcases Nat.le_succ_iff.mp le with le | rfl
      · exact Or.inr ⟨i, le, at_i⟩
      · rw [h.next_eq passes] at at_i
        exact Or.inl (Option.some.inj at_i).symm
  distinct := by
    intro i j lt le
    rcases Nat.le_succ_iff.mp le with le | rfl
    · exact h.distinct i j lt le
    · rw [h.next_eq passes]
      intro at_i
      exact fresh ((h.mem_seen next).mpr ⟨i, Nat.le_of_lt_succ lt, at_i⟩)

theorem again (h : flow.Trail state count seen frontier)
    (passes : flow.successor frontier = some next) (repeated : next ∈ seen) :
    flow.FirstRepeated state next := by
  obtain ⟨i, le, at_i⟩ := (h.mem_seen next).mp repeated
  refine ⟨i, count + 1, Nat.lt_succ_of_le le, at_i, h.next_eq passes, ?_⟩
  intro j k lt before
  exact h.distinct j k lt (Nat.le_of_lt_succ before)

/-- All frontiers but the first one are targets of silent edges, and no two are the same. -/
theorem count_le (steady : flow.Steady) (h : flow.Trail state count seen frontier) :
    count ≤ flow.silentEdges.length := by
  let behind := (List.range count).map fun i => flow.stretch state (i + 1)
  let targets := flow.silentEdges.map fun transition =>
    transition.target?.map fun target => State.ofEvents [target]
  have nodup : behind.Nodup := by
    apply List.Nodup.map_on _ List.nodup_range
    intro i memI j memJ same
    rw [List.mem_range] at memI memJ
    by_contra different
    rcases Nat.lt_or_gt_of_ne different with lt | gt
    · exact h.distinct (i + 1) (j + 1) (by omega) (by omega) same
    · exact h.distinct (j + 1) (i + 1) (by omega) (by omega) same.symm
  have sub : behind ⊆ targets := by
    intro reached mem
    obtain ⟨i, memI, rfl⟩ := List.mem_map.mp mem
    rw [List.mem_range] at memI
    have made : flow.stretch state (i + 1) ≠ none := by
      intro ended
      have := stretch_none_of_le (Nat.succ_le_of_lt memI) ended
      rw [h.here] at this
      cases this
    obtain ⟨next, there⟩ := Option.ne_none_iff_exists'.mp made
    obtain ⟨before, _, passes⟩ := Option.bind_eq_some_iff.mp there
    obtain ⟨_, transition, target, found, fixed, rfl⟩ := successor_eq_some_iff.mp passes
    rw [steady.table] at found
    have mem := (Table.mem_of_lookup found).1
    have silent := Transition.isExclusive_of_target? fixed
    have memSilent : transition ∈ flow.silentEdges :=
      List.mem_filter.mpr ⟨mem, by rw [silent]; rfl⟩
    show flow.stretch state (i + 1) ∈ targets
    rw [there]
    exact List.mem_map.mpr ⟨transition, memSilent, by rw [fixed]; rfl⟩
  have few : behind.length ≤ targets.length := (nodup.subperm sub).length_le
  simp only [behind, targets, List.length_map, List.length_range] at few
  exact few

end Trail

/-- What the silent part of a call comes to when it may make `bound` moves. -/
inductive HaltSpec (flow : Flow σ ε) (state : State) (bound : Nat) : Halt → Prop
  | stops {count : Nat} {last : State} (here : flow.stretch state count = some last)
    (stop : flow.successor last = none) : HaltSpec flow state bound (.stops last)
  | repeats {next : State} (first : flow.FirstRepeated state next) :
    HaltSpec flow state bound (.repeats next)
  | limited {seen : List State} {last : State} (trail : flow.Trail state bound seen last) :
    HaltSpec flow state bound (.limited last)

theorem halt_spec {flow : Flow σ ε} {state : State} (left : Nat) : ∀ {count : Nat}
    {seen : List State} {frontier : State}, flow.Trail state count seen frontier →
    flow.HaltSpec state (count + left) (flow.halt left seen frontier) := by
  induction left with
  | zero =>
    intro count seen frontier trail
    rw [halt]
    by_cases done : flow.isCompleted frontier = true
    · rw [if_pos done]
      exact .stops trail.here (by rw [successor, if_pos done])
    · rw [if_neg done]
      exact .limited trail
  | succ left ih =>
    intro count seen frontier trail
    rcases followed : flow.successor frontier with _ | next
    · rw [halt_stops followed]
      exact .stops trail.here followed
    · by_cases repeated : next ∈ seen
      · rw [halt_repeats followed repeated]
        exact .repeats (trail.again followed repeated)
      · rw [halt_passes followed repeated, Nat.add_comm left, ← Nat.add_assoc]
        exact ih (trail.pass followed repeated)

/-- The step that is left where the silent part stops finds no cycle and needs no limit. -/
theorem Steady.finish_conclusive {flow : Flow σ ε} (h : flow.Steady) {last : State}
    (stop : flow.successor last = none) (context : σ) (state : State) :
    ((Halt.stops last).finish flow context).1 ≠ .cyclic state ∧
      ((Halt.stops last).finish flow context).1 ≠ .limited state := by
  cases h.stop_spec stop with
  | completed done => simp [flow.finish_completed context done]
  | unhandled pending notFound => simp [flow.finish_unhandled context pending notFound]
  | @exclusive transition pending found exclusive =>
    rw [flow.finish_exclusive context pending found exclusive]
    rcases (transition.take context).1 with cause | events <;> simp [Ending.ofTake]

/-- With a limit above the number of silent edges, a call gets to where these stop, or it finds the
first frontier that comes back. -/
theorem Steady.haltOf_spec {flow : Flow σ ε} (h : flow.Steady)
    (enough : flow.silentEdges.length < flow.config.maxIterations) (state : State) :
    (∃ count last, flow.haltOf state = .stops last ∧ flow.stretch state count = some last ∧
      flow.successor last = none) ∨
    ∃ next, flow.haltOf state = .repeats next ∧ flow.FirstRepeated state next := by
  have spec := flow.halt_spec flow.config.bound (.start flow state)
  rw [Nat.zero_add] at spec
  unfold haltOf
  generalize flow.halt flow.config.bound [flow.entry state] (flow.entry state) = halt at spec
  cases spec with
  | @stops count last here stop => exact Or.inl ⟨count, last, rfl, here, stop⟩
  | @repeats next first => exact Or.inr ⟨next, rfl, first⟩
  | limited trail =>
    have few := trail.count_le h
    have bound : flow.config.maxIterations ≤ flow.config.bound := Nat.le_max_left _ _
    omega

end Flow

/-- A call whose limit is above the number of silent edges tells whether these lead on for ever. It
complains about a cycle just if they do, and names the first frontier that comes back. It never
stops at the limit. -/
theorem staticCycle_iff_endless {root : Item σ ε} {config : Config} {flow : Flow σ ε}
    (compiles : Flow.compile root config = .ok flow) (fixed : flow.SilentFixed)
    (enough : flow.silentEdges.length < config.maxIterations) (state : State) (context : σ) :
    ((∃ frontier, (flow.apply state context).1 = .error (.staticCycle frontier)) ↔
      flow.Endless state) ∧
    (flow.Endless state ↔
      ∀ count frontier, flow.stretch state count = some frontier → ¬flow.StopsAt frontier) ∧
    (∀ frontier, (flow.apply state context).1 = .error (.staticCycle frontier) →
      flow.FirstRepeated state frontier) ∧
    (∀ frontier, (flow.ending state context).1 ≠ .limited frontier) ∧
    ∀ limit, (flow.apply state context).1 ≠ .error (.iterationLimit limit) := by
  obtain ⟨compiled, _, rfl⟩ := Flow.compile_eq_ok_iff.mp compiles
  set flow : Flow σ ε := ⟨compiled.scope, .ofList compiled.transitions, config⟩
  have h : flow.Steady := ⟨rfl, fixed⟩
  have cyclic : ∀ frontier, (flow.apply state context).1 = .error (.staticCycle frontier) →
      (flow.ending state context).1 = .cyclic frontier :=
    fun frontier answered => Ending.answer_eq_staticCycle answered
  have notLimited : (∀ frontier, (flow.ending state context).1 ≠ .limited frontier) →
      ∀ limit, (flow.apply state context).1 ≠ .error (.iterationLimit limit) := by
    intro never limit answered
    obtain ⟨frontier, limited⟩ := Ending.answer_eq_iterationLimit answered
    exact never frontier limited
  rcases h.haltOf_spec enough state with ⟨count, last, halts, here, stop⟩ | ⟨next, halts, first⟩
  · have ended : flow.ending state context = (Halt.stops last).finish flow context := by
      rw [h.ending_eq_finish, halts]
    have conclusive := h.finish_conclusive stop context
    rw [← ended] at conclusive
    have ends : ¬flow.Endless state := fun endless =>
      h.endless_iff.mp endless count last here (h.successor_eq_none_iff.mp stop)
    have acyclic : ∀ frontier,
        (flow.apply state context).1 ≠ .error (.staticCycle frontier) :=
      fun frontier answered => (conclusive frontier).1 (cyclic frontier answered)
    have unlimited : ∀ frontier, (flow.ending state context).1 ≠ .limited frontier :=
      fun frontier => (conclusive frontier).2
    refine ⟨?_, h.endless_iff, ?_, unlimited, notLimited unlimited⟩
    · exact iff_of_false (fun ⟨frontier, answered⟩ => acyclic frontier answered) ends
    · exact fun frontier answered => absurd answered (acyclic frontier)
  · have ended : flow.ending state context = (.cyclic next, context) := by
      rw [h.ending_eq_finish, halts]
      rfl
    have unlimited : ∀ frontier, (flow.ending state context).1 ≠ .limited frontier := by
      intro frontier limited
      rw [ended] at limited
      cases limited
    have answered : (flow.apply state context).1 = .error (.staticCycle next) := by
      rw [Flow.apply_fst, ended]
      rfl
    refine ⟨?_, h.endless_iff, ?_, unlimited, notLimited unlimited⟩
    · exact iff_of_true ⟨next, answered⟩ first.endless
    · intro frontier answered
      have same := cyclic frontier answered
      rw [ended] at same
      obtain rfl := Ending.cyclic.inj same
      exact first

/-- Three silent edges of the caller, two of which form a ring, under a handler. -/
def carousel : Item Deployment String :=
  .retry (.custom "carousel" fun parent =>
    let scope := Scope.nest parent "carousel"
    let left := scope.within "left"
    let right := scope.within "right"
    .ok ⟨scope, [.fixed scope.start left.start, .fixed left.start right.start,
      .fixed right.start left.start]⟩) Deployment.retryUpload

theorem staticCycle_iff_endless_carousel : ∃ flow : Flow Deployment String,
    Flow.compile carousel ⟨4, .fail⟩ = .ok flow ∧ flow.SilentFixed ∧ flow.silentEdges.length < 4 ∧
      (flow.apply ⟨["nowhere", "start:carousel/right"]⟩ {}).1 =
        .error (.staticCycle ⟨["start:carousel/left"]⟩) ∧
      flow.Endless ⟨["nowhere", "start:carousel/right"]⟩ := by
  obtain ⟨flow, compiles⟩ : ∃ flow, Flow.compile carousel ⟨4, .fail⟩ = .ok flow := ⟨_, rfl⟩
  have shape := Except.ok.inj compiles
  have fixed : flow.SilentFixed := by
    rw [← shape]
    intro transition mem _
    simp only [Compiled.retry, Table.transitions_ofList, List.map_cons, List.map_nil,
      List.mem_cons, List.not_mem_nil, or_false] at mem
    rcases mem with rfl | rfl | rfl <;> exact ⟨_, rfl⟩
  have enough : flow.silentEdges.length < 4 := by
    rw [← shape]
    decide
  have answered : (flow.apply ⟨["nowhere", "start:carousel/right"]⟩ {}).1 =
      .error (.staticCycle ⟨["start:carousel/left"]⟩) := by
    rw [← shape]
    decide +kernel
  have tells :=
    staticCycle_iff_endless compiles fixed enough ⟨["nowhere", "start:carousel/right"]⟩ {}
  exact ⟨flow, compiles, fixed, enough, answered, tells.1.mp ⟨_, answered⟩⟩

end ResumableFlow
