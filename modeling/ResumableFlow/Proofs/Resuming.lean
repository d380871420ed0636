import Mathlib.Logic.Relation
import ResumableFlow.Proofs.Recording
import ResumableFlow.Proofs.WellFormed

/-!
# Resuming at the limit

A call that stops at the limit hands back the frontier that it got to. Feeding that frontier back
goes on as a call with a higher limit would have gone on: where such a call comes to a conclusion,
the calls with the lower limit come to the same one, and they invoke the same functions
(`resumed_of_compile`). This holds of any table, with any transitions of the caller.

A cut loses two things, the frontiers that were seen and the fact that the instance has started.
The first one matters only if the whole call ends in a cycle (`Flow.walk_of_subset`), the second
one only if it gets to the empty frontier, and from there no call comes to a conclusion
(`Flow.walk_empty_not_conclusive`).
-/

namespace ResumableFlow

variable {σ ε : Type}

/-- Whether the call ended for a reason of the flow or of the caller: it reached the completion,
took an exclusive transition, ran into a failure, or found no transition although there was an
event. -/
def Ending.IsConclusive : Ending ε → Prop
  | completed _ => True
  | taken _ => True
  | failed _ => True
  | unhandled frontier => frontier ≠ .empty
  | cyclic _ => False
  | limited _ => False

namespace Flow

/-- A call stops at the limit and hands back the frontier that it got to. -/
def Yields (flow : Flow σ ε) (inst next : Instance σ) : Prop :=
  (flow.ending inst.state inst.context).1 = .limited next.state ∧
    flow.call inst = (.ok next.state, next)

/-- Any number of calls in a row stop at the limit. -/
def Resumes (flow : Flow σ ε) : Instance σ → Instance σ → Prop :=
  Relation.ReflTransGen flow.Yields

/-! ## Cutting a walk -/

/-- A walk either ends within the first transitions or goes on with the rest of them from the
frontier at which a shorter walk stops. -/
theorem walk_split (flow : Flow σ ε) (first rest : Nat) : ∀ (seen : List State) (frontier : State)
    (context : σ), frontier ∈ seen →
    flow.walk first seen frontier context = flow.walk (first + rest) seen frontier context ∨
      ∃ reached next after, next ∈ reached ∧
        flow.walk first seen frontier context = (.limited next, after) ∧
        flow.walk (first + rest) seen frontier context = flow.walk rest reached next after := by
  induction first with
  | zero =>
    intro seen frontier context mem
    rw [Nat.zero_add]
    by_cases done : flow.isCompleted frontier = true
    · left
      cases rest with
      | zero => rfl
      | succ rest => rw [walk_ends (flow.step_completed done context), walk, if_pos done]
    · right
      refine ⟨seen, frontier, context, mem, ?_, rfl⟩
      rw [walk, if_neg done]
  | succ first ih =>
    intro seen frontier context _
    rw [Nat.succ_add]
    rcases stepped : flow.step frontier context with ⟨ending | next, after⟩
    · left
      rw [walk_ends stepped, walk_ends stepped]
    · by_cases repeated : next ∈ seen
      · left
        rw [walk_repeats stepped repeated, walk_repeats stepped repeated]
      · rw [walk_passes stepped repeated, walk_passes stepped repeated]
        exact ih (next :: seen) next after List.mem_cons_self

/-- A walk that comes back to no frontier does not notice when some of them are forgotten. -/
theorem walk_of_subset (flow : Flow σ ε) (left : Nat) : ∀ {fewer seen : List State}
    {frontier : State} {context : σ}, fewer ⊆ seen →
    (∀ next, (flow.walk left seen frontier context).1 ≠ .cyclic next) →
    flow.walk left fewer frontier context = flow.walk left seen frontier context := by
  induction left with
  | zero =>
    intro fewer seen frontier context _ _
    rfl
  | succ left ih =>
    intro fewer seen frontier context sub acyclic
    rcases stepped : flow.step frontier context with ⟨ending | next, after⟩
    · rw [walk_ends stepped, walk_ends stepped]
    · by_cases repeated : next ∈ seen
      · rw [walk_repeats stepped repeated] at acyclic
        exact absurd rfl (acyclic next)
      · have fresh : next ∉ fewer := fun mem => repeated (sub mem)
        rw [walk_passes stepped repeated] at acyclic
        rw [walk_passes stepped repeated, walk_passes stepped fresh]
        exact ih (List.cons_subset_cons next sub) acyclic

/-- Nothing leads away from the empty frontier. -/
theorem walk_empty_not_conclusive (flow : Flow σ ε) (left : Nat) (seen : List State) (context : σ) :
    ¬(flow.walk left seen .empty context).1.IsConclusive := by
  have pending := flow.not_isCompleted_empty
  cases left with
  | zero =>
    rw [walk, if_neg pending]
    exact id
  | succ left =>
    have notFound : flow.table.lookup .empty = none := rfl
    have stepped : flow.step .empty context = (.ends (.unhandled .empty), context) := by
      rw [step, if_neg pending, notFound]
    rw [walk_ends stepped]
    exact fun conclusive => conclusive rfl

/-! ## Calls with a lower limit -/

theorem entry_ne_empty (flow : Flow σ ε) (state : State) : flow.entry state ≠ .empty := by
  by_cases started : state = .empty
  · rw [started, entry_empty]
    exact (State.empty_ne_ofEvents_cons _ _).symm
  · rw [flow.entry_of_ne_empty started]
    exact started

theorem ending_of_ne_empty (flow : Flow σ ε) {state : State} (started : state ≠ .empty)
    (context : σ) :
    flow.ending state context = flow.walk flow.config.bound [state] state context := by
  rw [ending, flow.entry_of_ne_empty started]

theorem ending_entry (flow : Flow σ ε) (state : State) (context : σ) :
    flow.ending (flow.entry state) context = flow.ending state context := by
  rw [flow.ending_of_ne_empty (flow.entry_ne_empty state)]
  rfl

theorem yields_of_ending (flow : Flow σ ε) (policy : flow.config.onLimit = .yield)
    {inst next : Instance σ}
    (stops : flow.ending inst.state inst.context = (.limited next.state, next.context)) :
    flow.Yields inst next := by
  refine ⟨by rw [stops], ?_⟩
  simp only [call, apply, stops, Ending.answer, policy]

/-- A walk of any length that comes to a conclusion is matched by calls. Each call that stops at
the limit takes at least one transition of the walk, and leaves a shorter walk to match. -/
theorem resumes_of_walk (flow : Flow σ ε) (policy : flow.config.onLimit = .yield)
    {ending : Ending ε} {after : σ} (conclusive : ending.IsConclusive) (left : Nat) :
    ∀ (seen : List State) (frontier : State) (context : σ), frontier ∈ seen →
    flow.walk left seen frontier context = (ending, after) →
    ∃ last, flow.Resumes ⟨frontier, context⟩ last ∧
      flow.ending last.state last.context = (ending, after) := by
  induction left using Nat.strongRecOn with
  | ind left ih =>
    intro seen frontier context mem walked
    have started : frontier ≠ .empty := by
      rintro rfl
      apply flow.walk_empty_not_conclusive left seen context
      rw [walked]
      exact conclusive
    have only : [frontier] ⊆ seen := by
      intro state memSingle
      rwa [List.mem_singleton.mp memSingle]
    -- Where the walk needs no more transitions than a call may take, one call is enough.
    have concludes : flow.walk flow.config.bound seen frontier context = (ending, after) →
        ∃ last, flow.Resumes ⟨frontier, context⟩ last ∧
          flow.ending last.state last.context = (ending, after) := by
      intro eq
      refine ⟨⟨frontier, context⟩, Relation.ReflTransGen.refl, ?_⟩
      rw [flow.ending_of_ne_empty started, flow.walk_of_subset _ only, eq]
      intro next cyclic
      rw [eq] at cyclic
      rw [show ending = .cyclic next from cyclic] at conclusive
      exact conclusive
    rcases Nat.le_total left flow.config.bound with le | le
    · obtain ⟨more, bound⟩ := Nat.exists_eq_add_of_le le
      rcases flow.walk_split left more seen frontier context mem with eq | ⟨_, next, _, _, stops, _⟩
      · apply concludes
        rw [bound, ← eq, walked]
      · rw [walked] at stops
        rw [(Prod.mk.inj stops).1] at conclusive
        exact conclusive.elim
    · obtain ⟨rest, total⟩ := Nat.exists_eq_add_of_le le
      rw [total] at walked
      rcases flow.walk_split flow.config.bound rest seen frontier context mem with
        eq | ⟨reached, next, between, memNext, stops, goesOn⟩
      · apply concludes
        rw [eq, walked]
      · -- The call stops at the limit, and the rest of the walk is shorter.
        have shorter : rest < left := by
          have := flow.config.bound_pos
          omega
        obtain ⟨last, resumes, ended⟩ :=
          ih rest shorter reached next between memNext (goesOn ▸ walked)
        have yields : flow.Yields ⟨frontier, context⟩ ⟨next, between⟩ := by
          apply flow.yields_of_ending policy
          rw [flow.ending_of_ne_empty started, flow.walk_of_subset _ only, stops]
          intro state cyclic
          rw [stops] at cyclic
          cases cyclic
        exact ⟨last, Relation.ReflTransGen.head yields resumes, ended⟩

theorem isCompleted_congr {a b : Flow σ ε} (scope : a.scope = b.scope) (state : State) :
    a.isCompleted state = b.isCompleted state := by
  unfold isCompleted completed
  rw [scope]

theorem step_congr {a b : Flow σ ε} (scope : a.scope = b.scope) (table : a.table = b.table)
    (frontier : State) (context : σ) : a.step frontier context = b.step frontier context := by
  rw [step, step, isCompleted_congr scope, table]

/-- The settings of a flow have no part in a walk. -/
theorem walk_congr {a b : Flow σ ε} (scope : a.scope = b.scope) (table : a.table = b.table)
    (left : Nat) (seen : List State) (frontier : State) (context : σ) :
    a.walk left seen frontier context = b.walk left seen frontier context := by
  have completes := isCompleted_congr scope
  have steps := step_congr scope table
  exact walk_eq_of_step (fun _ => True) completes (fun _ _ _ => steps _ _) left seen frontier
    context trivial

/-- It makes no difference whether an instance that has not started is put at the start before. -/
theorem Yields.of_entry {flow : Flow σ ε} {state : State} {context : σ} {next : Instance σ}
    (h : flow.Yields ⟨flow.entry state, context⟩ next) : flow.Yields ⟨state, context⟩ next := by
  obtain ⟨stops, called⟩ := h
  rw [flow.ending_entry] at stops
  refine ⟨stops, ?_⟩
  have same := flow.ending_entry state context
  simp only [call, apply, same] at called
  simp only [call, apply]
  revert called
  rcases (flow.ending state context).1.answer flow.config with error | answer
  · intro called
    cases called
  · exact id

theorem exists_resumes (cut whole : Flow σ ε) (scope : cut.scope = whole.scope)
    (table : cut.table = whole.table) (policy : cut.config.onLimit = .yield) (state : State)
    (context : σ) (conclusive : (whole.ending state context).1.IsConclusive) :
    ∃ last, cut.Resumes ⟨state, context⟩ last ∧
      cut.ending last.state last.context = whole.ending state context := by
  have entry : cut.entry state = whole.entry state := by
    simp only [Flow.entry, start, scope]
  have walked : cut.walk whole.config.bound [cut.entry state] (cut.entry state) context =
      whole.ending state context := by
    rw [walk_congr scope table, entry]
    rfl
  obtain ⟨last, resumes, ended⟩ :=
    cut.resumes_of_walk policy conclusive _ _ _ _ List.mem_cons_self walked
  rcases Relation.ReflTransGen.cases_head resumes with rfl | ⟨next, yields, goesOn⟩
  · refine ⟨⟨state, context⟩, Relation.ReflTransGen.refl, ?_⟩
    rw [← cut.ending_entry]
    exact ended
  · exact ⟨last, Relation.ReflTransGen.head yields.of_entry goesOn, ended⟩

theorem Mirrors.resumes {ι : Type} {recorded : Flow (Journaled ι σ ε) ε} {plain : Flow σ ε}
    (h : Mirrors recorded plain) {inst last : Instance (Journaled ι σ ε)}
    (resumes : recorded.Resumes inst last) :
    plain.Resumes ⟨inst.state, inst.context.1⟩ ⟨last.state, last.context.1⟩ := by
  have forget : ∀ inst next, recorded.Yields inst next →
      plain.Yields ⟨inst.state, inst.context.1⟩ ⟨next.state, next.context.1⟩ := by
    rintro ⟨state, context, journal⟩ ⟨next, after, later⟩ ⟨stops, called⟩
    obtain ⟨added, ended⟩ := h.ending state context journal
    obtain ⟨addedCall, eq⟩ := h.call state context journal
    rw [ended] at stops
    rw [eq] at called
    obtain ⟨answered, left⟩ := Prod.mk.inj called
    obtain ⟨state', contexts⟩ := Instance.mk.inj left
    refine ⟨stops, Prod.ext answered ?_⟩
    show (plain.call ⟨state, context⟩).2 = ⟨next, after⟩
    rw [← state', ← (Prod.mk.inj contexts).1]
  induction resumes with
  | refl => exact Relation.ReflTransGen.refl
  | tail _ yields ih => exact Relation.ReflTransGen.tail ih (forget _ _ yields)

end Flow

/-- A conclusion is told in the same words under all settings. -/
theorem Ending.IsConclusive.answer_eq {ending : Ending ε} (h : ending.IsConclusive) (a b : Config) :
    ending.answer a = ending.answer b := by
  cases ending with
  | limited _ => exact h.elim
  | cyclic _ => exact h.elim
  | _ => rfl

/-- Calls with a low limit come to the conclusion of a call with a high limit, and the functions
that they invoke together, and the contexts that these see and leave, are those of that call. -/
theorem resumed_of_compile {root : Item σ ε} {few most : Nat} {cut whole : Flow σ ε}
    (compilesCut : Flow.compile root ⟨few, .yield⟩ = .ok cut)
    (compilesWhole : Flow.compile root ⟨most, .yield⟩ = .ok whole) (state : State) (context : σ)
    (conclusive : (whole.ending state context).1.IsConclusive) :
    ∃ last journal, cut.Resumes ⟨state, context⟩ last ∧
      cut.ending last.state last.context = whole.ending state context ∧
      cut.apply last.state last.context = whole.apply state context ∧
      cut.recorded.Resumes ⟨state, (context, [])⟩ ⟨last.state, (last.context, journal)⟩ ∧
      cut.recorded.ending last.state (last.context, journal) =
        whole.recorded.ending state (context, []) := by
  obtain ⟨compiled, compiles, rfl⟩ := Flow.compile_eq_ok_iff.mp compilesCut
  obtain ⟨compiled', compiles', rfl⟩ := Flow.compile_eq_ok_iff.mp compilesWhole
  obtain rfl : compiled = compiled' := Except.ok.inj (compiles.symm.trans compiles')
  set cut : Flow σ ε := ⟨compiled.scope, .ofList compiled.transitions, ⟨few, .yield⟩⟩
  set whole : Flow σ ε := ⟨compiled.scope, .ofList compiled.transitions, ⟨most, .yield⟩⟩
  have mirrorsCut : Flow.Mirrors cut.recorded cut := .recorded rfl
  have mirrorsWhole : Flow.Mirrors whole.recorded whole := .recorded rfl
  obtain ⟨added, endedWhole⟩ := mirrorsWhole.ending state context []
  have conclusiveRecorded : (whole.recorded.ending state (context, [])).1.IsConclusive := by
    rw [endedWhole]
    exact conclusive
  obtain ⟨⟨last, after, journal⟩, resumes, ended⟩ :=
    Flow.exists_resumes cut.recorded whole.recorded rfl rfl rfl state (context, [])
      conclusiveRecorded
  have endedPlain : cut.ending last after = whole.ending state context := by
    obtain ⟨addedLast, endedLast⟩ := mirrorsCut.ending last after journal
    have same := endedLast.symm.trans (ended.trans endedWhole)
    simp only [Prod.mk.injEq] at same
    exact Prod.ext same.1 same.2.1
  refine ⟨⟨last, after⟩, journal, mirrorsCut.resumes resumes, endedPlain, ?_, resumes, ended⟩
  simp only [Flow.apply, endedPlain]
  rw [conclusive.answer_eq]

theorem resumed_of_compile_watchedDeployment : ∃ cut whole : Flow Deployment String,
    Flow.compile watchedDeployment ⟨1, .yield⟩ = .ok cut ∧
      Flow.compile watchedDeployment ⟨5, .yield⟩ = .ok whole ∧
      (whole.ending .empty {}).1.IsConclusive ∧
      ∃ last, cut.Resumes ⟨.empty, {}⟩ last ∧
        cut.apply last.state last.context = whole.apply .empty {} := by
  refine ⟨_, _, rfl, rfl, trivial, ?_⟩
  obtain ⟨last, _, resumes, _, applied, _⟩ :=
    @resumed_of_compile Deployment String watchedDeployment 1 5 _ _ rfl rfl .empty {} trivial
  exact ⟨last, resumes, applied⟩

end ResumableFlow
