import ResumableFlow.Proofs.Edges

/-!
# Silent stretches end

Loops and retries put cycles into a compiled list, but only through exclusive edges. Along silent
edges every event comes within a bounded number of transitions to an exclusive edge or to the
completion of the item, and the number of transitions of the item is such a bound
(`settles_of_compile`).
-/

namespace ResumableFlow

variable {σ ε : Type}

/-- From the event, at most `bound` transitions are taken until an exclusive one has been taken or
the event `exit` is reached. -/
inductive Settles (transitions : List (Transition σ ε)) (exit : Event) : Nat → Event → Prop
  | exit {bound : Nat} : Settles transitions exit bound exit
  | exclusive {bound : Nat} {transition : Transition σ ε} (mem : transition ∈ transitions)
    (exclusive : transition.isExclusive = true) :
    Settles transitions exit (bound + 1) transition.source
  | silent {bound : Nat} {transition : Transition σ ε} {target : Event}
    (mem : transition ∈ transitions) (found : transition.target? = some target)
    (rest : Settles transitions exit bound target) :
    Settles transitions exit (bound + 1) transition.source

namespace Settles

variable {transitions : List (Transition σ ε)} {exit event : Event} {bound : Nat}

theorem mono {more : Nat} (h : Settles transitions exit bound event) (le : bound ≤ more) :
    Settles transitions exit more event := by
  induction h generalizing more with
  | exit => exact .exit
  | exclusive mem exclusive =>
    obtain ⟨more, rfl⟩ := Nat.exists_eq_add_of_le' (Nat.lt_of_lt_of_le (Nat.succ_pos _) le)
    exact .exclusive mem exclusive
  | silent mem found _ ih =>
    obtain ⟨more, rfl⟩ := Nat.exists_eq_add_of_le' (Nat.lt_of_lt_of_le (Nat.succ_pos _) le)
    exact .silent mem found (ih (Nat.le_of_succ_le_succ le))

/-- Where one stretch ends at its exit, another one may go on within a longer list. -/
theorem trans {longer : List (Transition σ ε)} {exit' : Event} {bound' : Nat}
    (h : Settles transitions exit bound event) (sub : transitions ⊆ longer)
    (next : Settles longer exit' bound' exit) : Settles longer exit' (bound + bound') event := by
  induction h with
  | exit => exact next.mono (Nat.le_add_left _ _)
  | exclusive mem exclusive =>
    rw [Nat.add_right_comm]
    exact .exclusive (sub mem) exclusive
  | silent mem found _ ih =>
    rw [Nat.add_right_comm]
    exact .silent (sub mem) found ih

theorem of_subset {longer : List (Transition σ ε)} (h : Settles transitions exit bound event)
    (sub : transitions ⊆ longer) : Settles longer exit bound event := by
  have stop : Settles longer exit 0 exit := .exit
  exact h.trans sub stop

/-- Handlers change neither targets nor exclusivity. -/
theorem guarded (restart : Event) (handler : Handler σ ε)
    (h : Settles transitions exit bound event) :
    Settles (transitions.map fun transition => .guarded transition restart handler) exit bound
      event := by
  induction h with
  | exit => exact .exit
  | @exclusive _ transition mem exclusive =>
    show Settles _ _ _ (Transition.guarded transition restart handler).source
    exact .exclusive (List.mem_map_of_mem mem) exclusive
  | @silent _ transition _ mem found _ ih =>
    show Settles _ _ _ (Transition.guarded transition restart handler).source
    exact .silent (List.mem_map_of_mem mem) found ih

end Settles

namespace Item

/-- Each kind of item settles if its parts do. The start of an item, and the event that the rest
of a sequence goes on from, are among the events that the compiled list leaves. -/
theorem settlesCases : CompileCases (σ := σ) (ε := ε)
    (fun _ item compiled => item.isBuiltIn = true →
      compiled.scope.start ∈ sourcesOf compiled.transitions ∧
        ∀ event ∈ sourcesOf compiled.transitions,
          Settles compiled.transitions compiled.scope.completed compiled.transitions.length event)
    (fun scope _ last items transitions => areBuiltIn items = true →
      last ∈ sourcesOf transitions ∧ ∀ event ∈ sourcesOf transitions,
        Settles transitions scope.completed transitions.length event) where
  activity := by
    intro parent name run _ _
    refine ⟨List.mem_cons_self, fun event mem => ?_⟩
    obtain rfl := List.mem_singleton.mp mem
    exact .exclusive List.mem_cons_self rfl
  steps := fun _ chain builtIn => chain builtIn
  gate := by
    intro parent name body condition inner _ settles builtIn
    obtain ⟨_, inBody⟩ := settles builtIn
    refine ⟨List.mem_cons_self, fun event mem => ?_⟩
    -- The completion of the body leads on to that of the gate.
    have leave : Settles (Compiled.gate (.nest parent name) inner condition).transitions
        (Scope.nest parent name).completed 1 inner.scope.completed :=
      .silent (inner.leave_mem_gate _ condition) rfl .exit
    rcases List.mem_cons.mp mem with rfl | mem
    · exact .exclusive List.mem_cons_self rfl
    rcases List.mem_cons.mp mem with rfl | mem
    · exact leave.mono (Nat.le_add_left _ _)
    · have through := (inBody event mem).trans (inner.subset_gate _ condition) leave
      exact through.mono (Nat.le_succ _)
  loopUntil := by
    intro parent name body condition inner _ settles builtIn
    obtain ⟨startMem, inBody⟩ := settles builtIn
    refine ⟨List.mem_cons_self, fun event mem => ?_⟩
    -- The condition is asked at the completion of the body.
    have ask : Settles (Compiled.loopUntil (.nest parent name) inner condition).transitions
        (Scope.nest parent name).completed 1 inner.scope.completed :=
      .exclusive (inner.ask_mem_loopUntil _ condition) rfl
    have sub := inner.subset_loopUntil (.nest parent name) condition
    rcases List.mem_cons.mp mem with rfl | mem
    · exact .silent List.mem_cons_self rfl ((inBody _ startMem).trans sub ask)
    rcases List.mem_cons.mp mem with rfl | mem
    · exact ask.mono (Nat.le_add_left _ _)
    · exact ((inBody event mem).trans sub ask).mono (Nat.le_succ _)
  retry := by
    intro parent body handler inner settles builtIn
    obtain ⟨startMem, inBody⟩ := settles builtIn
    rw [sourcesOf_retry]
    refine ⟨startMem, fun event mem => ?_⟩
    have length : (inner.retry handler).transitions.length = inner.transitions.length :=
      List.length_map _
    rw [length]
    exact (inBody event mem).guarded _ handler
  waitFor := by
    intro parent name condition _ _
    refine ⟨List.mem_cons_self, fun event mem => ?_⟩
    obtain rfl := List.mem_singleton.mp mem
    exact .exclusive List.mem_cons_self rfl
  custom := by
    intro parent name compile compiled _ builtIn
    cases builtIn
  nil := by
    intro scope taken last _
    refine ⟨List.mem_cons_self, fun event mem => ?_⟩
    obtain rfl := List.mem_singleton.mp mem
    exact .silent List.mem_cons_self rfl .exit
  cons := by
    intro scope taken last item items child following settles _ chain builtIn
    rw [areBuiltIn, Bool.and_eq_true] at builtIn
    obtain ⟨startMem, inChild⟩ := settles builtIn.1
    obtain ⟨goesOn, inFollowing⟩ := chain builtIn.2
    refine ⟨List.mem_cons_self, fun event mem => ?_⟩
    let whole := Transition.fixed last child.scope.start :: (child.transitions ++ following)
    have subChild : child.transitions ⊆ whole := subset_link_left _ _ following
    have subFollowing : following ⊆ whole := subset_link_right _ child.transitions following
    have length : whole.length = child.transitions.length + following.length + 1 := by
      simp only [whole, List.length_cons, List.length_append]
    have later : ∀ event ∈ sourcesOf following,
        Settles whole scope.completed following.length event := fun event mem =>
      (inFollowing event mem).of_subset subFollowing
    have throughChild : ∀ event ∈ sourcesOf child.transitions,
        Settles whole scope.completed (child.transitions.length + following.length) event :=
      fun event mem => (inChild event mem).trans subChild (later _ goesOn)
    show Settles whole scope.completed whole.length event
    rw [length]
    rw [sourcesOf_cons, sourcesOf_append, List.mem_cons, List.mem_append] at mem
    rcases mem with rfl | mem
    · exact .silent List.mem_cons_self rfl (throughChild _ startMem)
    · rcases mem with mem | mem
      · exact (throughChild event mem).mono (Nat.le_succ _)
      · exact (later event mem).mono (by omega)

/-- Every event that a compiled tree of the library's own kinds leaves settles within as many
transitions as there are. -/
theorem settles_of_compile {item : Item σ ε} {parent : Option Scope} {compiled : Compiled σ ε}
    (builtIn : item.isBuiltIn = true) (compiles : item.compile parent = .ok compiled) :
    ∀ event ∈ sourcesOf compiled.transitions,
      Settles compiled.transitions compiled.scope.completed compiled.transitions.length event :=
  (settlesCases.induct item compiles builtIn).2

end Item

end ResumableFlow
