import ResumableFlow.Proofs.Correspondences

/-!
# Erasing retries

A tree and the tree without its retries compile to the same edges but for the handlers around them
(`Item.erases`), and handlers matter only when an edge fails. A call that does not fail without the
retries is therefore the same with them (`Flow.Related.apply_eq`).
-/

namespace ResumableFlow

variable {σ ε : Type}

/-! ## Edges under handlers -/

/-- A handler with the event that it leads back to. -/
structure Guard (σ ε : Type) where
  restart : Event
  handler : Handler σ ε

def Guard.destination (guard : Guard σ ε) : Destination := ⟨guard.restart, "retry"⟩

namespace Transition

/-- The edge under handlers, the innermost one first. -/
def under (transition : Transition σ ε) (guards : List (Guard σ ε)) : Transition σ ε :=
  guards.foldl (fun inner guard => .guarded inner guard.restart guard.handler) transition

theorem under_concat (transition : Transition σ ε) (guards : List (Guard σ ε))
    (guard : Guard σ ε) : transition.under (guards ++ [guard]) =
      .guarded (transition.under guards) guard.restart guard.handler := by
  rw [under, List.foldl_append]
  rfl

section under

variable (guards : List (Guard σ ε))

theorem source_under (transition : Transition σ ε) :
    (transition.under guards).source = transition.source := by
  induction guards generalizing transition with
  | nil => rfl
  | cons guard guards ih => exact ih (.guarded transition guard.restart guard.handler)

theorem isExclusive_under (transition : Transition σ ε) :
    (transition.under guards).isExclusive = transition.isExclusive := by
  induction guards generalizing transition with
  | nil => rfl
  | cons guard guards ih => exact ih (.guarded transition guard.restart guard.handler)

theorem destinations_under (transition : Transition σ ε) :
    (transition.under guards).destinations =
      transition.destinations ++ guards.map Guard.destination := by
  induction guards generalizing transition with
  | nil => exact (List.append_nil _).symm
  | cons guard guards ih =>
    have inner := ih (.guarded transition guard.restart guard.handler)
    rw [destinations, List.append_assoc] at inner
    exact inner

/-- Handlers are not asked when the edge does not fail. -/
theorem take_under {transition : Transition σ ε} {context after : σ} {events : List Event}
    (taken : transition.take context = (.ok events, after)) :
    (transition.under guards).take context = (.ok events, after) := by
  induction guards generalizing transition with
  | nil => exact taken
  | cons guard guards ih =>
    have inner : (transition.guarded guard.restart guard.handler).take context =
        (.ok events, after) := by
      simp only [take, Callable.guard, taken]
    exact ih inner

end under

end Transition

/-- The one edge is the other one under some handlers. -/
def Transition.Guards (transition bare : Transition σ ε) : Prop :=
  ∃ guards, transition = bare.under guards

/-! ## Flows with more handlers -/

namespace Flow.Related

open Transition

variable {flow bare : Flow σ ε}

theorem step_eq (h : flow.Related Guards bare) (frontier : State) (context : σ)
    (succeeds : ∀ ending, (bare.step frontier context).1 = .ends ending →
      ∀ cause, ending ≠ .failed cause) :
    flow.step frontier context = bare.step frontier context := by
  have source : ∀ {a b : Transition σ ε}, a.Guards b → a.source = b.source := by
    rintro _ b ⟨guards, rfl⟩
    exact source_under guards b
  have found := h.lookup source frontier
  unfold Flow.step at succeeds ⊢
  rw [h.isCompleted_eq]
  by_cases done : bare.isCompleted frontier = true
  · rw [if_pos done, if_pos done]
  · rw [if_neg done] at succeeds
    rw [if_neg done, if_neg done]
    generalize flow.table.lookup frontier = found', bare.table.lookup frontier = found₀
      at found succeeds
    cases found with
    | none => rfl
    | @some transition inner related =>
      obtain ⟨guards, rfl⟩ := related
      rcases taken : inner.take context with ⟨cause | events, next⟩
      · simp only [taken] at succeeds
        exact absurd rfl (succeeds _ rfl cause)
      · simp only [taken, take_under guards taken, isExclusive_under]

/-- A call that does not fail without the handlers is the same with them. -/
theorem apply_eq (h : flow.Related Guards bare) {state : State} {context : σ}
    (succeeds : ∀ cause, (bare.apply state context).1 ≠ .error (.callable cause)) :
    flow.apply state context = bare.apply state context := by
  have ended : flow.ending state context = bare.ending state context := by
    rw [ending, ending, h.config, h.entry_eq]
    refine walk_eq_of_step (fun ending => ∀ cause, ending ≠ .failed cause) h.isCompleted_eq
      h.step_eq _ _ _ _ fun cause failed => succeeds cause ?_
    show (bare.ending state context).1.answer bare.config = _
    rw [show (bare.ending state context).1 = .failed cause from failed]
    rfl
  simp only [apply, ended, h.config]

end Flow.Related

/-! ## Trees without their retries -/

namespace Item

mutual

/-- The tree without its retries. Items of the caller keep what is in them. -/
def erased : Item σ ε → Item σ ε
  | activity name run => .activity name run
  | steps name items => .steps name (erasedAll items)
  | gate name body condition => .gate name body.erased condition
  | loopUntil name body condition => .loopUntil name body.erased condition
  | retry body _ => body.erased
  | waitFor name condition => .waitFor name condition
  | custom name compile => .custom name compile

def erasedAll : List (Item σ ε) → List (Item σ ε)
  | [] => []
  | item :: items => item.erased :: erasedAll items

end

mutual

/-- The retries around each edge that the item compiles to below `parent`, in the order of the
edges and from the innermost retry outwards. -/
def guards (parent : Option Scope) : Item σ ε → List (List (Guard σ ε))
  | activity _ _ => [[]]
  | steps name items => guardsOf (.nest parent name) items
  | gate name body _ => [] :: [] :: body.guards (some (.nest parent name))
  | loopUntil name body _ => [] :: [] :: body.guards (some (.nest parent name))
  | retry body handler =>
    match body.compile parent with
    | .ok compiled => (body.guards parent).map (· ++ [⟨compiled.scope.start, handler⟩])
    | .error _ => []
  | waitFor _ _ => [[]]
  | custom _ compile =>
    match compile parent with
    | .ok compiled => compiled.transitions.map fun _ => []
    | .error _ => []

def guardsOf (scope : Scope) : List (Item σ ε) → List (List (Guard σ ε))
  | [] => [[]]
  | item :: items => [] :: (item.guards (some scope) ++ guardsOf scope items)

end

end Item

/-- The edges are the bare ones under the handlers of the rows. -/
inductive Wraps : List (List (Guard σ ε)) → List (Transition σ ε) → List (Transition σ ε) → Prop
  | nil : Wraps [] [] []
  | cons {rows : List (List (Guard σ ε))} {bare wrapped : List (Transition σ ε)}
    (guards : List (Guard σ ε)) (transition : Transition σ ε) (rest : Wraps rows bare wrapped) :
    Wraps (guards :: rows) (transition :: bare) (transition.under guards :: wrapped)

namespace Wraps

variable {rows rows' : List (List (Guard σ ε))}
  {bare bare' wrapped wrapped' : List (Transition σ ε)}

theorem append (h : Wraps rows bare wrapped) (h' : Wraps rows' bare' wrapped') :
    Wraps (rows ++ rows') (bare ++ bare') (wrapped ++ wrapped') := by
  induction h with
  | nil => exact h'
  | cons guards transition _ ih => exact .cons guards transition ih

theorem guarded_map (h : Wraps rows bare wrapped) (guard : Guard σ ε) :
    Wraps (rows.map (· ++ [guard])) bare
      (wrapped.map fun transition => .guarded transition guard.restart guard.handler) := by
  induction h with
  | nil => exact .nil
  | cons guards transition _ ih =>
    rw [List.map_cons, List.map_cons, ← Transition.under_concat]
    exact .cons _ transition ih

theorem refl (transitions : List (Transition σ ε)) :
    Wraps (transitions.map fun _ => []) transitions transitions := by
  induction transitions with
  | nil => exact .nil
  | cons transition transitions ih => exact .cons [] transition ih

theorem guards (h : Wraps rows bare wrapped) : List.Forall₂ Transition.Guards wrapped bare := by
  induction h with
  | nil => exact .nil
  | cons guards transition _ ih => exact .cons ⟨guards, rfl⟩ ih

theorem length_eq (h : Wraps rows bare wrapped) : rows.length = bare.length := by
  induction h with
  | nil => rfl
  | cons guards transition _ ih => exact congrArg Nat.succ ih

end Wraps

/-- Both compilations stop at the same error, or they succeed with these results. -/
inductive SameOutcome {α β : Type} (R : α → β → Prop) :
    Except (FlowError ε) α → Except (FlowError ε) β → Prop
  | error (error : FlowError ε) : SameOutcome R (.error error) (.error error)
  | ok {a : α} {b : β} (related : R a b) : SameOutcome R (.ok a) (.ok b)

theorem SameOutcome.bind {α β γ δ : Type} {R : α → β → Prop} {S : γ → δ → Prop}
    {first : Except (FlowError ε) α} {first' : Except (FlowError ε) β}
    {second : α → Except (FlowError ε) γ} {second' : β → Except (FlowError ε) δ}
    (h : SameOutcome R first first')
    (next : ∀ {a b}, R a b → SameOutcome S (second a) (second' b)) :
    SameOutcome S (first >>= second) (first' >>= second') := by
  cases h with
  | error error => exact .error error
  | ok related => exact next related

theorem SameOutcome.named {α β : Type} {S : α → β → Prop} (name : String)
    {second : Unit → Except (FlowError ε) α} {second' : Unit → Except (FlowError ε) β}
    (next : SameOutcome S (second ()) (second' ())) :
    SameOutcome S (validateName name >>= second) (validateName name >>= second') := by
  rcases validateName name with error | _
  · exact .error error
  · exact next

/-- The compilations have the same scope, and the edges of the one are those of the other one under
the handlers of the rows. -/
structure Compiled.Erases (rows : List (List (Guard σ ε))) (compiled bare : Compiled σ ε) :
    Prop where
  scope : compiled.scope = bare.scope
  wraps : Wraps rows bare.transitions compiled.transitions

namespace Item

mutual

theorem erases : ∀ (item : Item σ ε) (parent : Option Scope),
    SameOutcome (Compiled.Erases (item.guards parent)) (item.compile parent)
      (item.erased.compile parent)
  | activity name run, parent => by
    rw [erased, compile]
    exact .named name (.ok ⟨rfl, .cons [] _ .nil⟩)
  | steps name items, parent => by
    rw [erased, compile, compile]
    exact .named name ((erases_steps items _ _ _).bind fun wraps => .ok ⟨rfl, wraps⟩)
  | gate name body condition, parent => by
    rw [erased, compile, compile]
    refine .named name ((body.erases _).bind fun erases => .ok ⟨rfl, ?_⟩)
    simp only [Compiled.gate, erases.scope]
    exact .cons [] _ (.cons [] _ erases.wraps)
  | loopUntil name body condition, parent => by
    rw [erased, compile, compile]
    refine .named name ((body.erases _).bind fun erases => .ok ⟨rfl, ?_⟩)
    simp only [Compiled.loopUntil, erases.scope]
    exact .cons [] _ (.cons [] _ erases.wraps)
  | retry body handler, parent => by
    have inner := body.erases parent
    rw [erased, compile, guards]
    generalize body.compile parent = compiled, body.erased.compile parent = bare at inner
    cases inner with
    | error error => exact .error error
    | ok erases => exact .ok ⟨erases.scope, erases.wraps.guarded_map _⟩
  | waitFor name condition, parent => by
    rw [erased, compile]
    exact .named name (.ok ⟨rfl, .cons [] _ .nil⟩)
  | custom name compile, parent => by
    rw [erased, Item.compile, guards]
    rcases compile parent with error | compiled
    · exact .error error
    · exact .ok ⟨rfl, .refl _⟩

theorem erases_steps : ∀ (items : List (Item σ ε)) (scope : Scope) (taken : List String)
    (last : Event), SameOutcome (fun wrapped bare => Wraps (guardsOf scope items) bare wrapped)
      (compileSteps scope taken last items) (compileSteps scope taken last (erasedAll items))
  | [], scope, taken, last => .ok (.cons [] _ .nil)
  | item :: items, scope, taken, last => by
    rw [erasedAll, compileSteps, compileSteps]
    refine (item.erases (some scope)).bind fun {child bare} erases => ?_
    -- A retry has no scope of its own, so the names that repeat are the same ones.
    rw [erases.scope]
    by_cases repeated : bare.scope.name ∈ taken
    · simp only [if_pos repeated]
      exact .error _
    · simp only [if_neg repeated]
      refine (erases_steps items scope _ _).bind fun wraps => .ok ?_
      exact .cons [] _ (erases.wraps.append wraps)

end

end Item

/-! ## Their descriptions -/

/-- The row of an edge under handlers: its destinations are followed by one for each of them. -/
def Row.under (row : Row) (guards : List (Guard σ ε)) : Row :=
  ⟨row.source, row.exclusive, row.destinations ++ guards.map Guard.destination⟩

theorem Transition.row_under (transition : Transition σ ε) (guards : List (Guard σ ε)) :
    (transition.under guards).row = transition.row.under guards := by
  rw [row, source_under, isExclusive_under, destinations_under]
  rfl

/-- The compilations are described alike but for the ways back that the handlers of the rows
open. -/
structure Compiled.SameButWaysBack (rows : List (List (Guard σ ε))) (compiled bare : Compiled σ ε) :
    Prop where
  scope : compiled.scope = bare.scope
  length : rows.length = bare.transitions.length
  described : compiled.transitions.map Transition.row =
    List.zipWith Row.under (bare.transitions.map Transition.row) rows

theorem Wraps.map_row {rows : List (List (Guard σ ε))} {bare wrapped : List (Transition σ ε)}
    (h : Wraps rows bare wrapped) : wrapped.map Transition.row =
      List.zipWith Row.under (bare.map Transition.row) rows := by
  induction h with
  | nil => rfl
  | cons guards transition _ ih =>
    rw [List.map_cons, List.map_cons, List.zipWith_cons_cons, transition.row_under guards, ih]

theorem SameOutcome.imp {α β : Type} {R S : α → β → Prop} {first : Except (FlowError ε) α}
    {first' : Except (FlowError ε) β} (h : SameOutcome R first first')
    (weaker : ∀ {a b}, R a b → S a b) : SameOutcome S first first' := by
  cases h with
  | error error => exact .error error
  | ok related => exact .ok (weaker related)

theorem Item.sameButWaysBack (item : Item σ ε) (parent : Option Scope) :
    SameOutcome (Compiled.SameButWaysBack (item.guards parent)) (item.compile parent)
      (item.erased.compile parent) :=
  (item.erases parent).imp fun erases =>
    ⟨erases.scope, erases.wraps.length_eq, erases.wraps.map_row⟩

theorem Item.exists_flow_erased {root : Item σ ε} {config : Config} {flow : Flow σ ε}
    (compiles : Flow.compile root config = .ok flow) :
    ∃ bare, Flow.compile root.erased config = .ok bare ∧
      flow.Related Transition.Guards bare := by
  obtain ⟨compiled, compilesRoot, rfl⟩ := Flow.compile_eq_ok_iff.mp compiles
  have outcome := root.erases none
  rw [compilesRoot] at outcome
  generalize compilesErased : root.erased.compile none = erased at outcome
  cases outcome with
  | @ok _ bare erases =>
    refine ⟨_, Flow.compile_eq_ok_iff.mpr ⟨bare, compilesErased, rfl⟩, ?_⟩
    exact ⟨erases.scope, rfl, erases.wraps.guards, rfl, rfl⟩

end ResumableFlow
