import ResumableFlow.Proofs.Edges

/-!
# How a tree comes to its completion

The edges that lead to the completion of a tree depend on the kind of its root, seen through the
handlers around it. Those of a sequence are silent. Those of an activity, a wait and a loop are
exclusive. Those of a gate are the silent one behind its body and the exclusive one past it, which
is taken when the condition does not hold.
-/

namespace ResumableFlow

variable {σ ε : Type}

theorem Compiled.WellFormed.not_listed {scope : Scope} {child : Compiled σ ε}
    (h : child.WellFormed (some scope)) {transition : Transition σ ε}
    (mem : transition ∈ child.transitions) :
    scope.completed ∉ transition.destinations.map Destination.event := by
  intro listed
  have isTarget : scope.completed ∈ targetsOf child.transitions :=
    List.mem_flatMap.mpr ⟨transition, mem, listed⟩
  have inside := h.target_enclosed _ isTarget
  rw [h.scope_eq.2] at inside
  exact scope.not_within_encloses_path _ inside

namespace Transition

theorem mem_destinations_of_target? {transition : Transition σ ε} {target : Event}
    (h : transition.target? = some target) :
    target ∈ transition.destinations.map Destination.event := by
  induction transition with
  | fixed source fixedTarget =>
    obtain rfl := Option.some.inj h
    exact List.mem_singleton.mpr rfl
  | chosen source exclusive options choose => cases h
  | guarded inner restart handler ih =>
    rw [destinations, List.map_append]
    exact List.mem_append_left _ (ih h)

/-- The edge at the start of a gate, under handlers that lead back to the start. -/
inductive Entrance (condition : Callable σ ε Bool) (start inside outside : Event) :
    Transition σ ε → Prop
  | branch (options : List Destination) :
    Entrance condition start inside outside (.branch start options condition [inside] [outside])
  | guarded {inner : Transition σ ε} (handler : Handler σ ε)
    (entrance : Entrance condition start inside outside inner) :
    Entrance condition start inside outside (.guarded inner start handler)

namespace Entrance

variable {condition : Callable σ ε Bool} {start inside outside : Event}
  {transition : Transition σ ε}

theorem source (h : transition.Entrance condition start inside outside) :
    transition.source = start := by
  induction h with
  | branch options => rfl
  | guarded handler _ ih => exact ih

theorem isExclusive (h : transition.Entrance condition start inside outside) :
    transition.isExclusive = true := by
  induction h with
  | branch options => rfl
  | guarded handler _ ih => exact ih

/-- The edge leads inside if the condition holds, outside if it does not hold, and back to the
start if the condition failed and a handler agreed. -/
theorem take_ok (h : transition.Entrance condition start inside outside) {context after : σ}
    {target : Event} (taken : transition.take context = (.ok [target], after)) :
    (target = inside ∧ (condition context).1 = .ok true) ∨
      (target = outside ∧ (condition context).1 = .ok false) ∨ target = start := by
  induction h generalizing after with
  | branch options =>
    simp only [Transition.branch, take, Callable.map] at taken
    rcases answered : condition context with ⟨cause | _ | _, next⟩ <;> rw [answered] at taken
    · cases taken
    · cases taken
      exact Or.inr (Or.inl ⟨rfl, rfl⟩)
    · cases taken
      exact Or.inl ⟨rfl, rfl⟩
  | @guarded inner handler _ ih =>
    simp only [take, Callable.guard] at taken
    rcases done : inner.take context with ⟨cause | reached, next⟩
    · rw [done] at taken
      simp only at taken
      rcases handled : handler cause next with ⟨failure | _ | _, final⟩ <;> rw [handled] at taken
      · cases taken
      · cases taken
      · cases taken
        exact Or.inr (Or.inr rfl)
    · rw [done] at taken
      cases taken
      exact ih done

end Entrance

end Transition

namespace Item

/-- How the edges that the tree compiles to lead to its completion. -/
def Exits (scope : Scope) (transitions : List (Transition σ ε)) : Item σ ε → Prop
  | steps _ _ => ∀ transition ∈ transitions, transition.isExclusive = true →
    scope.completed ∉ transition.destinations.map Destination.event
  | gate _ _ condition =>
    (∃ transition ∈ transitions, ∃ inside ≠ scope.completed,
      transition.Entrance condition scope.start inside scope.completed) ∧
    ∀ transition ∈ transitions, transition.isExclusive = true → transition.source ≠ scope.start →
      scope.completed ∉ transition.destinations.map Destination.event
  | retry body _ => body.Exits scope transitions
  | activity _ _ | loopUntil _ _ _ | waitFor _ _ | custom _ _ =>
    ∀ transition ∈ transitions, transition.target? ≠ some scope.completed

theorem not_listed_guarded {scope : Scope} {transition : Transition σ ε}
    (h : scope.completed ∉ transition.destinations.map Destination.event)
    (handler : Handler σ ε) :
    scope.completed ∉ (transition.guarded scope.start handler).destinations.map
      Destination.event := by
  intro listed
  rw [Transition.destinations, List.map_append] at listed
  rcases List.mem_append.mp listed with listed | listed
  · exact h listed
  · exact Scope.start_ne_completed _ _ (List.mem_singleton.mp listed).symm

theorem not_fixed_guarded_map {scope : Scope} {transitions : List (Transition σ ε)}
    (h : ∀ transition ∈ transitions, transition.target? ≠ some scope.completed)
    (handler : Handler σ ε) :
    ∀ transition ∈ transitions.map fun transition => Transition.guarded transition scope.start
      handler, transition.target? ≠ some scope.completed := by
  intro transition mem
  obtain ⟨inner, memInner, rfl⟩ := List.mem_map.mp mem
  exact h inner memInner

/-- Handlers that lead back to the start do not change how a tree is left. -/
theorem Exits.guarded_map {scope : Scope} {transitions : List (Transition σ ε)}
    (handler : Handler σ ε) : ∀ {item : Item σ ε}, item.Exits scope transitions →
    item.Exits scope (transitions.map fun transition => .guarded transition scope.start handler)
  | activity _ _, exits => not_fixed_guarded_map exits handler
  | loopUntil _ _ _, exits => not_fixed_guarded_map exits handler
  | waitFor _ _, exits => not_fixed_guarded_map exits handler
  | custom _ _, exits => not_fixed_guarded_map exits handler
  | retry body _, exits => (guarded_map handler exits : body.Exits scope _)
  | steps _ _, exits => by
    intro transition mem exclusive
    obtain ⟨inner, memInner, rfl⟩ := List.mem_map.mp mem
    exact not_listed_guarded (exits inner memInner exclusive) handler
  | gate _ _ condition, ⟨⟨entrance, mem, inside, pending, enters⟩, exits⟩ => by
    constructor
    · exact ⟨_, List.mem_map_of_mem mem, inside, pending, enters.guarded handler⟩
    · intro transition mem exclusive elsewhere
      obtain ⟨inner, memInner, rfl⟩ := List.mem_map.mp mem
      exact not_listed_guarded (exits inner memInner exclusive elsewhere) handler

/-- The exclusive edges of a sequence are those of its items. -/
theorem exclusive_of_compileSteps {scope : Scope} : ∀ (items : List (Item σ ε))
    {taken : List String} {last : Event} {transitions : List (Transition σ ε)},
    areBuiltIn items = true → compileSteps scope taken last items = .ok transitions →
    ∀ transition ∈ transitions, transition.isExclusive = true →
      ∃ child : Compiled σ ε, child.WellFormed (some scope) ∧ transition ∈ child.transitions
  | [], _, _, _, _, compiles => by
    obtain rfl := pure_eq_ok_iff.mp compiles
    intro transition mem exclusive
    obtain rfl := List.mem_singleton.mp mem
    cases exclusive
  | item :: items, _, _, _, builtIn, compiles => by
    obtain ⟨child, compilesItem, _, following, compilesRest, rfl⟩ :=
      compileSteps_cons_eq_ok_iff.mp compiles
    rw [areBuiltIn, Bool.and_eq_true] at builtIn
    intro transition mem exclusive
    rcases List.mem_cons.mp mem with rfl | mem
    · cases exclusive
    rcases List.mem_append.mp mem with mem | mem
    · exact ⟨child, wellFormed_of_isBuiltIn builtIn.1 compilesItem, mem⟩
    · exact exclusive_of_compileSteps items builtIn.2 compilesRest transition mem exclusive

theorem exits_of_compile : ∀ (item : Item σ ε) {parent : Option Scope} {compiled : Compiled σ ε},
    item.isBuiltIn = true → item.compile parent = .ok compiled →
    item.Exits compiled.scope compiled.transitions
  | activity _ _, _, _, _, compiles => by
    obtain ⟨_, rfl⟩ := compile_activity_eq_ok_iff.mp compiles
    intro transition mem
    obtain rfl := List.mem_singleton.mp mem
    exact nofun
  | waitFor _ _, _, _, _, compiles => by
    obtain ⟨_, rfl⟩ := compile_waitFor_eq_ok_iff.mp compiles
    intro transition mem
    obtain rfl := List.mem_singleton.mp mem
    exact nofun
  | steps _ items, _, _, builtIn, compiles => by
    obtain ⟨_, transitions, compilesItems, rfl⟩ := compile_steps_eq_ok_iff.mp compiles
    intro transition mem exclusive
    obtain ⟨child, wellFormed, mem⟩ :=
      exclusive_of_compileSteps items builtIn compilesItems transition mem exclusive
    exact wellFormed.not_listed mem
  | gate _ body _, _, _, builtIn, compiles => by
    obtain ⟨_, inner, compilesBody, rfl⟩ := compile_gate_eq_ok_iff.mp compiles
    have builtInBody : body.isBuiltIn = true := builtIn
    have wellFormed := wellFormed_of_isBuiltIn builtInBody compilesBody
    constructor
    · exact ⟨_, List.mem_cons_self, inner.scope.start, Scope.start_ne_completed _ _, .branch _⟩
    · intro transition mem exclusive elsewhere
      rcases List.mem_cons.mp mem with rfl | mem
      · exact absurd rfl elsewhere
      rcases List.mem_cons.mp mem with rfl | mem
      · cases exclusive
      · exact wellFormed.not_listed mem
  | loopUntil _ body _, _, _, builtIn, compiles => by
    obtain ⟨_, inner, compilesBody, rfl⟩ := compile_loopUntil_eq_ok_iff.mp compiles
    have builtInBody : body.isBuiltIn = true := builtIn
    have wellFormed := wellFormed_of_isBuiltIn builtInBody compilesBody
    intro transition mem fixed
    rcases List.mem_cons.mp mem with rfl | mem
    · exact Scope.start_ne_completed _ _ (Option.some.inj fixed)
    rcases List.mem_cons.mp mem with rfl | mem
    · cases fixed
    · exact wellFormed.not_listed mem (Transition.mem_destinations_of_target? fixed)
  | retry body handler, _, _, builtIn, compiles => by
    obtain ⟨inner, compilesBody, rfl⟩ := compile_retry_eq_ok_iff.mp compiles
    have exits := exits_of_compile body builtIn compilesBody
    exact (exits.guarded_map handler : body.Exits _ _)

end Item

end ResumableFlow
