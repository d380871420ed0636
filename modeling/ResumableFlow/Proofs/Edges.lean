import ResumableFlow.Proofs.WellFormed

/-!
# Edges of the library's own items

The edges that the library's own items compile to come in two kinds. A silent one has a fixed
target, which it leads to on every context and whatever handlers are around it. An exclusive one
asks a function of the caller, and leads to exactly one of the events that it lists.
-/

namespace ResumableFlow

variable {σ ε : Type}

namespace Transition

/-- The fixed target of a silent edge, under any number of handlers. -/
def target? : Transition σ ε → Option Event
  | fixed _ target => some target
  | chosen _ _ _ _ => none
  | guarded inner _ _ => inner.target?

/-- A fixed target is reached on every context, and no handler is asked. -/
theorem take_of_target? {transition : Transition σ ε} {target : Event}
    (h : transition.target? = some target) (context : σ) :
    transition.take context = (.ok [target], context) := by
  induction transition with
  | fixed source fixedTarget =>
    obtain rfl := Option.some.inj h
    rfl
  | chosen source exclusive options choose => cases h
  | guarded inner restart handler ih => simp only [take, Callable.guard, ih h]

theorem isExclusive_of_target? {transition : Transition σ ε} {target : Event}
    (h : transition.target? = some target) : transition.isExclusive = false := by
  induction transition with
  | fixed _ _ => rfl
  | chosen _ _ _ _ => cases h
  | guarded _ _ _ ih => exact ih h

/-- An edge as the library's own items make them, under any number of handlers. -/
inductive BuiltIn : Transition σ ε → Prop
  | fixed (source target : Event) : BuiltIn (.fixed source target)
  | chosen {source : Event} {options : List Destination} {choose : Callable σ ε (List Event)}
    (listed : ∀ context events after, choose context = (.ok events, after) →
      ∃ destination ∈ options, events = [destination.event]) :
    BuiltIn (.chosen source true options choose)
  | guarded {inner : Transition σ ε} (restart : Event) (handler : Handler σ ε)
    (builtIn : BuiltIn inner) : BuiltIn (.guarded inner restart handler)

namespace BuiltIn

variable {transition : Transition σ ε}

theorem target_of_silent (h : transition.BuiltIn) (silent : transition.isExclusive = false) :
    ∃ target, transition.target? = some target ∧
      target ∈ transition.destinations.map Destination.event := by
  induction h with
  | fixed source target => exact ⟨target, rfl, List.mem_singleton.mpr rfl⟩
  | chosen _ => cases silent
  | guarded restart handler _ ih =>
    obtain ⟨target, found, mem⟩ := ih silent
    refine ⟨target, found, ?_⟩
    rw [destinations, List.map_append]
    exact List.mem_append_left _ mem

theorem take_ok (h : transition.BuiltIn) {context after : σ} {events : List Event}
    (taken : transition.take context = (.ok events, after)) :
    ∃ target ∈ transition.destinations.map Destination.event, events = [target] := by
  induction h generalizing context with
  | fixed source target =>
    cases taken
    exact ⟨target, List.mem_singleton.mpr rfl, rfl⟩
  | chosen listed =>
    obtain ⟨destination, mem, eq⟩ := listed context events after taken
    exact ⟨destination.event, List.mem_map_of_mem mem, eq⟩
  | @guarded inner restart handler _ ih =>
    rw [destinations, List.map_append]
    simp only [take, Callable.guard] at taken
    rcases done : inner.take context with ⟨cause | reached, next⟩
    · rw [done] at taken
      simp only at taken
      rcases handled : handler cause next with ⟨failure | _ | _, final⟩ <;> rw [handled] at taken
      · cases taken
      · cases taken
      · cases taken
        exact ⟨restart, List.mem_append_right _ (List.mem_singleton.mpr rfl), rfl⟩
    · rw [done] at taken
      cases taken
      obtain ⟨target, mem, rfl⟩ := ih done
      exact ⟨target, List.mem_append_left _ mem, rfl⟩

theorem branch {source whenTrue whenFalse : Event} {options : List Destination}
    (condition : Callable σ ε Bool) (listsTrue : whenTrue ∈ options.map Destination.event)
    (listsFalse : whenFalse ∈ options.map Destination.event) :
    BuiltIn (.branch source options condition [whenTrue] [whenFalse]) := by
  refine .chosen fun context events after taken => ?_
  simp only [Callable.map] at taken
  rcases answered : condition context with ⟨cause | holds, next⟩ <;> rw [answered] at taken
  · cases taken
  · cases taken
    cases holds
    · obtain ⟨destination, mem, rfl⟩ := List.mem_map.mp listsFalse
      exact ⟨destination, mem, rfl⟩
    · obtain ⟨destination, mem, rfl⟩ := List.mem_map.mp listsTrue
      exact ⟨destination, mem, rfl⟩

end BuiltIn

end Transition

namespace Item

theorem builtInEdgesCases : CompileCases (σ := σ) (ε := ε)
    (fun _ item compiled => item.isBuiltIn = true →
      ∀ transition ∈ compiled.transitions, transition.BuiltIn)
    (fun _ _ _ items transitions => areBuiltIn items = true →
      ∀ transition ∈ transitions, transition.BuiltIn) where
  activity := by
    intro parent name run _ _ transition mem
    obtain rfl := List.mem_singleton.mp mem
    refine .chosen fun context events after taken => ?_
    simp only [Callable.map] at taken
    rcases done : run context with ⟨cause | _, next⟩ <;> rw [done] at taken
    · cases taken
    · cases taken
      exact ⟨_, List.mem_singleton.mpr rfl, rfl⟩
  steps := fun _ chain builtIn => chain builtIn
  gate := by
    intro parent name body condition inner _ edges builtIn transition mem
    rcases List.mem_cons.mp mem with rfl | mem
    · exact .branch condition (by simp) (by simp)
    rcases List.mem_cons.mp mem with rfl | mem
    · exact .fixed _ _
    · exact edges builtIn transition mem
  loopUntil := by
    intro parent name body condition inner _ edges builtIn transition mem
    rcases List.mem_cons.mp mem with rfl | mem
    · exact .fixed _ _
    rcases List.mem_cons.mp mem with rfl | mem
    · exact .branch condition (by simp) (by simp)
    · exact edges builtIn transition mem
  retry := by
    intro parent body handler inner edges builtIn transition mem
    obtain ⟨wrapped, inBody, rfl⟩ := List.mem_map.mp mem
    exact .guarded _ _ (edges builtIn wrapped inBody)
  waitFor := by
    intro parent name condition _ _ transition mem
    obtain rfl := List.mem_singleton.mp mem
    exact .branch condition (by simp) (by simp)
  custom := by
    intro parent name compile compiled _ builtIn
    cases builtIn
  nil := by
    intro scope taken last _ transition mem
    obtain rfl := List.mem_singleton.mp mem
    exact .fixed _ _
  cons := by
    intro scope taken last item items child following edges _ chain builtIn transition mem
    rw [areBuiltIn, Bool.and_eq_true] at builtIn
    rcases List.mem_cons.mp mem with rfl | mem
    · exact .fixed _ _
    rcases List.mem_append.mp mem with mem | mem
    · exact edges builtIn.1 transition mem
    · exact chain builtIn.2 transition mem

/-- The library's own items compile to the library's own edges. -/
theorem builtIn_of_compile {item : Item σ ε} {parent : Option Scope} {compiled : Compiled σ ε}
    (builtIn : item.isBuiltIn = true) (compiles : item.compile parent = .ok compiled) :
    ∀ transition ∈ compiled.transitions, transition.BuiltIn :=
  builtInEdgesCases.induct item compiles builtIn

end Item

end ResumableFlow
