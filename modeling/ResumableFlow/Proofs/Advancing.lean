import ResumableFlow.Proofs.Stretches
import ResumableFlow.Proofs.StoredRuns

/-!
# Calls in a row

To follow an instance through a whole drive, its calls are joined one behind the other:
`Flow.Advances` counts them, and `Flow.Advances.countUp` joins those of a loop that counts up to a
target. A drive that reaches its end this way is known up to the number of calls
(`Flow.Advances.completesIn`, `Flow.Advances.failsIn`).

What a single call does is read off the silent walk, which sees no context, and off the one function
that is asked behind it (`Flow.ComesTo`).
-/

namespace ResumableFlow

variable {σ ε : Type}

namespace Flow

variable {flow : Flow σ ε} {inst next last : Instance σ} {count more : Nat}

/-! ## Calls that succeed -/

/-- So many calls lead from the one instance to the other. All of them succeed, and none is made on
the completed flow. -/
inductive Advances (flow : Flow σ ε) : Nat → Instance σ → Instance σ → Prop
  | refl (inst : Instance σ) : Advances flow 0 inst inst
  | call {count : Nat} {inst next last : Instance σ} {state : State}
    (pending : ¬flow.isCompleted inst.state = true) (called : flow.call inst = (.ok state, next))
    (rest : Advances flow count next last) : Advances flow (count + 1) inst last

/-- The state in the round of a loop that begins with the count `n`. The first round, with the count
`low`, begins at `entry`, and the later ones at `again`. -/
def roundState (entry again : Event) (low n : Nat) : State :=
  .ofEvents [if n = low then entry else again]

namespace Advances

theorem single {state : State} (pending : ¬flow.isCompleted inst.state = true)
    (called : flow.call inst = (.ok state, next)) : flow.Advances 1 inst next :=
  .call pending called (.refl next)

theorem trans (h : flow.Advances count inst next) (rest : flow.Advances more next last) :
    flow.Advances (count + more) inst last := by
  induction h with
  | refl _ =>
    rw [Nat.zero_add]
    exact rest
  | call pending called _ ih =>
    rw [Nat.add_right_comm]
    exact .call pending called (ih rest)

section rounds

variable {entry again exit : Event} {context : Nat → σ} {low times target : Nat}

/-- Rounds of as many calls each, one after the other. -/
theorem rounds (stay : ∀ event ∈ [entry, again], ∀ n, low ≤ n → n < low + times →
      flow.Advances count ⟨.ofEvents [event], context n⟩ ⟨.ofEvents [again], context (n + 1)⟩) :
    flow.Advances (count * times) ⟨.ofEvents [entry], context low⟩
      ⟨roundState entry again low (low + times), context (low + times)⟩ := by
  induction times with
  | zero =>
    rw [Nat.add_zero, roundState, if_pos rfl]
    exact .refl _
  | succ times ih =>
    have before := ih fun event mem n least most => stay event mem n least (Nat.lt_succ_of_lt most)
    have here : (if low + times = low then entry else again) ∈ [entry, again] := by
      split <;> simp
    have next := stay _ here (low + times) (Nat.le_add_right _ _) (Nat.lt_succ_self _)
    have later : low + (times + 1) ≠ low := by omega
    rw [roundState, if_neg later]
    exact before.trans next

/-- A loop that counts its rounds, and is left after the round in which the target is reached. There
is at least one round, also where the target has been passed before. -/
theorem countUp (stay : ∀ event ∈ [entry, again], ∀ n, low ≤ n → n + 1 < target →
      flow.Advances count ⟨.ofEvents [event], context n⟩ ⟨.ofEvents [again], context (n + 1)⟩)
    (leave : ∀ event ∈ [entry, again], ∀ n, n + 1 = max (low + 1) target →
      flow.Advances count ⟨.ofEvents [event], context n⟩ ⟨.ofEvents [exit], context (n + 1)⟩) :
    flow.Advances (count * (max (low + 1) target - low)) ⟨.ofEvents [entry], context low⟩
      ⟨.ofEvents [exit], context (max (low + 1) target)⟩ := by
  obtain ⟨times, reached⟩ : ∃ times, low + times + 1 = max (low + 1) target :=
    ⟨max (low + 1) target - low - 1, by omega⟩
  have before : flow.Advances (count * times) ⟨.ofEvents [entry], context low⟩
      ⟨roundState entry again low (low + times), context (low + times)⟩ :=
    .rounds fun event mem n least most => stay event mem n least (by omega)
  have here : (if low + times = low then entry else again) ∈ [entry, again] := by
    split <;> simp
  have all : max (low + 1) target - low = times + 1 := by omega
  rw [all, ← reached]
  exact before.trans (leave _ here (low + times) reached)

end rounds

/-- A drive begins with the calls. -/
theorem drive (h : flow.Advances count inst last) : ∃ results, results.length = count ∧
    (∀ result ∈ results, ∃ state, result.1 = .ok state) ∧ inst.after results = last ∧
    ∀ more, flow.drive false (count + more) inst = results ++ flow.drive false more last := by
  induction h with
  | refl inst =>
    refine ⟨[], rfl, nofun, rfl, fun more => ?_⟩
    rw [Nat.zero_add, List.nil_append]
  | @call count inst next last state pending called _ ih =>
    obtain ⟨results, length, succeed, leaves, drives⟩ := ih
    refine ⟨(.ok state, next) :: results, congrArg Nat.succ length, ?_, ?_, fun more => ?_⟩
    · exact List.forall_mem_cons.mpr ⟨⟨state, rfl⟩, succeed⟩
    · rw [Instance.after_cons, leaves]
    · rw [Nat.add_right_comm, flow.drive_ok pending called, drives, List.cons_append]

end Advances

/-! ## Drives that end -/

/-- A drive that may make as many calls makes exactly that many. They all succeed, complete the flow
and leave `last`. -/
def CompletesIn (flow : Flow σ ε) (calls : Nat) (inst last : Instance σ) : Prop :=
  flow.isCompleted last.state = true ∧ ∃ results, results.length = calls ∧
    (∀ result ∈ results, ∃ state, result.1 = .ok state) ∧ inst.after results = last ∧
    ∀ more, flow.drive false (calls + more) inst = results

/-- A drive that may make as many calls makes exactly that many. All but the last one succeed, and
that one fails with the error and leaves `last`. -/
def FailsIn (flow : Flow σ ε) (calls : Nat) (inst : Instance σ) (error : FlowError ε)
    (last : Instance σ) : Prop :=
  ∃ earlier, earlier.length + 1 = calls ∧
    (∀ result ∈ earlier, ∃ state, result.1 = .ok state) ∧
    ∀ more, flow.drive false (calls + more) inst = earlier ++ [(.error error, last)]

theorem Advances.completesIn (h : flow.Advances count inst last)
    (done : flow.isCompleted last.state = true) : flow.CompletesIn count inst last := by
  obtain ⟨results, length, succeed, leaves, drives⟩ := h.drive
  refine ⟨done, results, length, succeed, leaves, fun more => ?_⟩
  rw [drives, flow.drive_of_isCompleted false more done, List.append_nil]

theorem Advances.failsIn (h : flow.Advances count inst next)
    (pending : ¬flow.isCompleted next.state = true) {error : FlowError ε}
    (called : flow.call next = (.error error, last)) :
    flow.FailsIn (count + 1) inst error last := by
  obtain ⟨results, length, succeed, _, drives⟩ := h.drive
  refine ⟨results, congrArg Nat.succ length, succeed, fun more => ?_⟩
  rw [Nat.add_assoc, Nat.add_comm 1, drives, flow.drive_error pending called]

theorem FailsIn.of_advances (h : flow.Advances count inst next) {calls : Nat}
    {error : FlowError ε} (fails : flow.FailsIn calls next error last) :
    flow.FailsIn (count + calls) inst error last := by
  obtain ⟨results, length, succeed, _, drives⟩ := h.drive
  obtain ⟨earlier, calls, earlierSucceed, ends⟩ := fails
  refine ⟨results ++ earlier, ?_, List.forall_mem_append.mpr ⟨succeed, earlierSucceed⟩,
    fun more => ?_⟩
  · rw [List.length_append, length, Nat.add_assoc, calls]
  · rw [Nat.add_assoc, drives, ends, List.append_assoc]

/-! ## Single calls -/

/-- From the state, a call passes silent edges until it comes to an exclusive one, and takes that
one as `take` says. -/
def ComesTo (flow : Flow σ ε) (state : State) (take : Callable σ ε (List Event)) : Prop :=
  ∃ frontier transition, flow.haltOf state = .stops frontier ∧
    flow.isCompleted frontier = false ∧ flow.table.lookup frontier = some transition ∧
    transition.isExclusive = true ∧ transition.take = take

/-- From the state, a call passes silent edges until the flow is completed. -/
def ComesToEnd (flow : Flow σ ε) (state : State) : Prop :=
  flow.haltOf state = .stops (.ofEvents [flow.completed])

theorem haltOf_of_isCompleted (flow : Flow σ ε) {state : State}
    (done : flow.isCompleted state = true) : flow.haltOf state = .stops state := by
  obtain ⟨left, bound⟩ := Nat.exists_eq_add_one_of_ne_zero flow.config.bound_pos.ne'
  have started : state ≠ .empty := by
    rintro rfl
    exact flow.not_isCompleted_empty done
  have stop : flow.successor state = none := by
    rw [successor, if_pos done]
  rw [haltOf, bound, flow.entry_of_ne_empty started, halt_stops stop]

section call

variable {state : State} {take : Callable σ ε (List Event)} {context after : σ}

theorem ComesTo.pending (h : flow.ComesTo state take) : ¬flow.isCompleted state = true := by
  obtain ⟨frontier, transition, halts, pending, _⟩ := h
  intro done
  rw [flow.haltOf_of_isCompleted done] at halts
  rw [← Halt.stops.inj halts, done] at pending
  cases pending

theorem Steady.ending_of_comesTo (steady : flow.Steady) (h : flow.ComesTo state take)
    (context : σ) :
    flow.ending state context = (.ofTake (take context).1, (take context).2) := by
  obtain ⟨frontier, transition, halts, pending, found, exclusive, rfl⟩ := h
  rw [steady.ending_eq_finish, halts,
    flow.finish_exclusive context (Bool.eq_false_iff.mp pending) found exclusive]

/-- A call whose function succeeds is one step on the way of the instance. -/
theorem Steady.advances_of_comesTo (steady : flow.Steady) (h : flow.ComesTo state take)
    {event : Event} (taken : take context = (.ok [event], after)) :
    flow.Advances 1 ⟨state, context⟩ ⟨.ofEvents [event], after⟩ := by
  have called : flow.call ⟨state, context⟩ =
      (.ok (.ofEvents [event]), ⟨.ofEvents [event], after⟩) := by
    simp only [call, apply, steady.ending_of_comesTo h, taken, Ending.ofTake, Ending.answer]
  exact .single h.pending called

theorem Steady.call_of_comesTo_error (steady : flow.Steady) (h : flow.ComesTo state take)
    {cause : ε} (taken : take context = (.error cause, after)) :
    flow.call ⟨state, context⟩ = (.error (.callable cause), ⟨state, after⟩) := by
  simp only [call, apply, steady.ending_of_comesTo h, taken, Ending.ofTake, Ending.answer]

theorem Steady.advances_of_comesToEnd (steady : flow.Steady) (h : flow.ComesToEnd state)
    (pending : ¬flow.isCompleted state = true) (context : σ) :
    flow.Advances 1 ⟨state, context⟩ ⟨.ofEvents [flow.completed], context⟩ := by
  have done : flow.isCompleted (.ofEvents [flow.completed]) = true :=
    flow.isCompleted_singleton.mpr rfl
  have ended := steady.ending_eq_finish state context
  rw [h, flow.finish_completed context done] at ended
  have called : flow.call ⟨state, context⟩ =
      (.ok (.ofEvents [flow.completed]), ⟨.ofEvents [flow.completed], context⟩) := by
    simp only [call, apply, ended, Ending.answer]
  exact .single pending called

end call

end Flow

end ResumableFlow
