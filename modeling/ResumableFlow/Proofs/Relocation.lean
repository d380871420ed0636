import ResumableFlow.Deploy.Flow
import ResumableFlow.Proofs.RecordedTrees

/-!
# Moving a tree

A tree of the library's own kinds does not know where it stands. Below an outer scope it compiles
just if it compiles as a root, and then to the same edges with the path of the outer scope and a
slash in front of every path (`relocated_of_isBuiltIn`). The edges lead to the moved events, and run
the same functions in the same order.

`Compiled.moved` moves a compiled list, the functions that choose its targets included. The
induction on the tree shows that compiling below the outer scope is compiling and then moving; what
moving does to an edge is told afterwards.
-/

namespace ResumableFlow

variable {σ ε : Type}

/-! ## Scopes and events -/

namespace Scope

variable (outer : Scope)

/-- The scope with its root moved into `outer`. -/
def moved (scope outer : Scope) : Scope :=
  match scope with
  | root name => outer.within name
  | within parent name => (parent.moved outer).within name

theorem path_moved (scope : Scope) :
    (scope.moved outer).path = outer.path ++ "/" ++ scope.path := by
  induction scope with
  | root name => rfl
  | within parent name ih => simp only [moved, path, ih, String.append_assoc]

theorem name_moved (scope : Scope) : (scope.moved outer).name = scope.name := by
  cases scope <;> rfl

/-- The scope that encloses a moved tree: `outer` itself if the tree was a root. -/
def around : Option Scope → Scope
  | none => outer
  | some parent => parent.moved outer

theorem nest_around (parent : Option Scope) (name : String) :
    nest (some (outer.around parent)) name = (nest parent name).moved outer := by
  cases parent <;> rfl

end Scope

variable (outer : Scope)

def Event.moved (event : Event) : Event := ⟨event.kind, outer.path ++ "/" ++ event.scope⟩

theorem Scope.start_moved (scope : Scope) :
    (scope.moved outer).start = scope.start.moved outer := by
  simp only [start, Event.moved, path_moved]

theorem Scope.completed_moved (scope : Scope) :
    (scope.moved outer).completed = scope.completed.moved outer := by
  simp only [completed, Event.moved, path_moved]

def Destination.moved (destination : Destination) : Destination :=
  ⟨destination.event.moved outer, destination.reason⟩

/-! ## Compiled lists -/

theorem Callable.map_map {α β γ : Type} (run : Callable σ ε α) (f : α → β) (g : β → γ) :
    (run.map f).map g = run.map (g ∘ f) := by
  funext context
  simp only [map]
  rcases run context with ⟨cause | answer, after⟩ <;> rfl

/-- The edge between the moved events, with the same functions. -/
def Transition.moved : Transition σ ε → Transition σ ε
  | fixed source target => fixed (source.moved outer) (target.moved outer)
  | chosen source exclusive options choose =>
    chosen (source.moved outer) exclusive (options.map (Destination.moved outer))
      (choose.map (List.map (Event.moved outer)))
  | guarded inner restart handler => guarded inner.moved (restart.moved outer) handler

def Compiled.moved (compiled : Compiled σ ε) : Compiled σ ε :=
  ⟨compiled.scope.moved outer, compiled.transitions.map (Transition.moved outer)⟩

theorem Transition.moved_branch (source : Event) (options : List Destination)
    (condition : Callable σ ε Bool) (whenTrue whenFalse : List Event) :
    (branch source options condition whenTrue whenFalse).moved outer =
      branch (source.moved outer) (options.map (Destination.moved outer)) condition
        (whenTrue.map (Event.moved outer)) (whenFalse.map (Event.moved outer)) := by
  have choice :
      (List.map (Event.moved outer) ∘ fun holds => if holds then whenTrue else whenFalse) =
      fun holds : Bool => if holds then whenTrue.map (Event.moved outer)
        else whenFalse.map (Event.moved outer) := by
    funext holds
    cases holds <;> rfl
  rw [branch, moved, Callable.map_map, choice, branch]

namespace Compiled

variable (scope : Scope) (body : Compiled σ ε) (condition : Callable σ ε Bool)

theorem moved_activity (run : Callable σ ε Unit) :
    (activity scope run).moved outer = activity (scope.moved outer) run := by
  simp only [activity, moved, List.map_cons, List.map_nil, Transition.moved, Destination.moved,
    Callable.map_map, Scope.start_moved, Scope.completed_moved]
  rfl

theorem moved_waitFor :
    (waitFor scope condition).moved outer = waitFor (scope.moved outer) condition := by
  simp only [waitFor, moved, List.map_cons, List.map_nil, Transition.moved_branch,
    Destination.moved, Scope.start_moved, Scope.completed_moved]

theorem moved_gate :
    (gate scope body condition).moved outer =
      gate (scope.moved outer) (body.moved outer) condition := by
  simp only [gate, moved, List.map_cons, List.map_nil, Transition.moved_branch, Transition.moved,
    Destination.moved, Scope.start_moved, Scope.completed_moved]

theorem moved_loopUntil :
    (loopUntil scope body condition).moved outer =
      loopUntil (scope.moved outer) (body.moved outer) condition := by
  simp only [loopUntil, moved, List.map_cons, List.map_nil, Transition.moved_branch,
    Transition.moved, Destination.moved, Scope.start_moved, Scope.completed_moved]

theorem moved_retry (handler : Handler σ ε) :
    (body.retry handler).moved outer = (body.moved outer).retry handler := by
  simp only [retry, moved, List.map_map, Scope.start_moved]
  rfl

end Compiled

/-! ## Outcomes -/

/-- Both compilations fail for the same name, where the path of a sequence is moved, or they succeed
with these results. -/
inductive Relocated {α β : Type} (R : α → β → Prop) :
    Except (FlowError ε) α → Except (FlowError ε) β → Prop
  | invalidName (name : String) :
    Relocated R (.error (.invalidName name)) (.error (.invalidName name))
  | duplicateName (scope name : String) :
    Relocated R (.error (.duplicateName scope name))
      (.error (.duplicateName (outer.path ++ "/" ++ scope) name))
  | ok {a : α} {b : β} (related : R a b) : Relocated R (.ok a) (.ok b)

namespace Relocated

variable {outer} {α β γ δ : Type} {R : α → β → Prop} {S : γ → δ → Prop}
  {first : Except (FlowError ε) α} {first' : Except (FlowError ε) β}

theorem bind {second : α → Except (FlowError ε) γ} {second' : β → Except (FlowError ε) δ}
    (h : Relocated outer R first first')
    (next : ∀ {a b}, R a b → Relocated outer S (second a) (second' b)) :
    Relocated outer S (first >>= second) (first' >>= second') := by
  cases h with
  | invalidName name => exact .invalidName name
  | duplicateName scope name => exact .duplicateName scope name
  | ok related => exact next related

theorem named (name : String) {second : Unit → Except (FlowError ε) γ}
    {second' : Unit → Except (FlowError ε) δ} (next : Relocated outer S (second ()) (second' ())) :
    Relocated outer S (validateName name >>= second) (validateName name >>= second') := by
  by_cases h : isName name = true
  · rw [validateName, if_pos h]
    exact next
  · rw [validateName, if_neg h]
    exact .invalidName name

theorem imp {S : α → β → Prop} (h : Relocated outer R first first')
    (weaker : ∀ {a b}, R a b → S a b) : Relocated outer S first first' := by
  cases h with
  | invalidName name => exact .invalidName name
  | duplicateName scope name => exact .duplicateName scope name
  | ok related => exact .ok (weaker related)

end Relocated

namespace Item

mutual

/-- Compiling a moved tree is compiling it and then moving what it compiles to. -/
theorem compile_moved : ∀ (item : Item σ ε) (parent : Option Scope), item.isBuiltIn = true →
    Relocated outer (fun compiled moved => moved = compiled.moved outer) (item.compile parent)
      (item.compile (some (outer.around parent)))
  | activity name run, parent, _ => by
    rw [compile, compile, Scope.nest_around]
    exact .named name (.ok (Compiled.moved_activity outer _ run).symm)
  | steps name items, parent, builtIn => by
    have inner := compileSteps_moved items (.nest parent name) [] (Scope.nest parent name).start
      builtIn
    rw [← Scope.start_moved] at inner
    rw [compile, compile, Scope.nest_around]
    refine .named name (inner.bind fun eq => .ok ?_)
    rw [eq]
    rfl
  | gate name body condition, parent, builtIn => by
    have inner := compile_moved body (some (.nest parent name)) builtIn
    rw [compile, compile, Scope.nest_around]
    refine .named name (inner.bind fun {compiled _} eq => .ok ?_)
    rw [eq, Compiled.moved_gate]
  | loopUntil name body condition, parent, builtIn => by
    have inner := compile_moved body (some (.nest parent name)) builtIn
    rw [compile, compile, Scope.nest_around]
    refine .named name (inner.bind fun {compiled _} eq => .ok ?_)
    rw [eq, Compiled.moved_loopUntil]
  | retry body handler, parent, builtIn => by
    rw [compile, compile]
    refine (compile_moved body parent builtIn).bind fun {compiled _} eq => .ok ?_
    rw [eq, Compiled.moved_retry]
  | waitFor name condition, parent, _ => by
    rw [compile, compile, Scope.nest_around]
    exact .named name (.ok (Compiled.moved_waitFor outer _ condition).symm)

theorem compileSteps_moved : ∀ (items : List (Item σ ε)) (scope : Scope) (taken : List String)
    (last : Event), areBuiltIn items = true →
    Relocated outer
      (fun transitions moved => moved = transitions.map (Transition.moved outer))
      (compileSteps scope taken last items)
      (compileSteps (scope.moved outer) taken (last.moved outer) items)
  | [], scope, _, last, _ => by
    rw [compileSteps, compileSteps, Scope.completed_moved]
    exact .ok rfl
  | item :: items, scope, taken, last, builtIn => by
    rw [areBuiltIn, Bool.and_eq_true] at builtIn
    rw [compileSteps, compileSteps]
    refine (compile_moved item (some scope) builtIn.1).bind fun {child _} eq => ?_
    have name : (child.moved outer).scope.name = child.scope.name :=
      Scope.name_moved outer child.scope
    -- A moved item keeps its name, so the names that repeat are the same ones.
    rw [eq, name]
    by_cases repeated : child.scope.name ∈ taken
    · simp only [if_pos repeated, Scope.path_moved]
      exact .duplicateName _ _
    · have completed : (child.moved outer).scope.completed = child.scope.completed.moved outer :=
        Scope.completed_moved outer child.scope
      simp only [if_neg repeated, completed]
      refine (compileSteps_moved items scope _ _ builtIn.2).bind fun eq => .ok ?_
      rw [eq, List.map_cons, List.map_append, Transition.moved, ← Scope.start_moved]
      rfl

end

end Item

/-! ## Moved edges -/

/-- The one edge is the other one at its place below `outer`. -/
structure Transition.MovesTo (transition moved : Transition σ ε) : Prop where
  source : moved.source = transition.source.moved outer
  isExclusive : moved.isExclusive = transition.isExclusive
  /-- The reasons stay. -/
  destinations : moved.destinations = transition.destinations.map fun destination =>
    ⟨destination.event.moved outer, destination.reason⟩
  /-- On every context the edge leads to the moved events, or fails with the same error, and the
  context that it leaves is the same. -/
  take : moved.take = transition.take.map (List.map (Event.moved outer))

structure Compiled.MovesTo (compiled moved : Compiled σ ε) : Prop where
  scope : moved.scope.path = outer.path ++ "/" ++ compiled.scope.path
  transitions :
    List.Forall₂ (Transition.MovesTo outer) compiled.transitions moved.transitions

theorem Callable.map_guard {α β : Type} (run : Callable σ ε α) (handler : Handler σ ε)
    (fallback : α) (f : α → β) :
    (run.guard handler fallback).map f = (run.map f).guard handler (f fallback) := by
  funext context
  simp only [map, guard]
  rcases run context with ⟨cause | answer, after⟩
  · dsimp only
    rcases handler cause after with ⟨failure | _ | _, final⟩ <;> rfl
  · rfl

theorem Transition.movesTo_moved (transition : Transition σ ε) :
    transition.MovesTo outer (transition.moved outer) := by
  induction transition with
  | fixed source target => exact ⟨rfl, rfl, rfl, rfl⟩
  | chosen source exclusive options choose => exact ⟨rfl, rfl, rfl, rfl⟩
  | guarded inner restart handler ih =>
    refine ⟨ih.source, ih.isExclusive, ?_, ?_⟩
    · rw [moved, Transition.destinations, ih.destinations, Transition.destinations, List.map_append]
      rfl
    · rw [moved, Transition.take, ih.take, Transition.take, Callable.map_guard, List.map_singleton]

theorem Compiled.movesTo_moved (compiled : Compiled σ ε) :
    compiled.MovesTo outer (compiled.moved outer) where
  scope := Scope.path_moved outer compiled.scope
  transitions := by
    rw [moved, List.forall₂_map_right_iff, List.forall₂_same]
    exact fun transition _ => transition.movesTo_moved outer

theorem Item.movesTo_of_isBuiltIn {item : Item σ ε} (builtIn : item.isBuiltIn = true) :
    Relocated outer (Compiled.MovesTo outer) (item.compile none) (item.compile (some outer)) := by
  refine (item.compile_moved outer none builtIn).imp fun {compiled _} eq => ?_
  rw [eq]
  exact compiled.movesTo_moved outer

/-- A tree of the library's own kinds compiles below an outer scope to its compilation as a root,
moved there. The same holds of the recorded tree, whose edges note the functions that they run: a
moved edge runs the same functions with the same errors. -/
theorem relocated_of_isBuiltIn {item : Item σ ε} (builtIn : item.isBuiltIn = true) :
    Relocated outer (Compiled.MovesTo outer) (item.compile none) (item.compile (some outer)) ∧
    Relocated outer (Compiled.MovesTo outer) ((item.recorded []).compile none)
      ((item.recorded []).compile (some outer)) ∧
    ∀ parent compiled, item.compile parent = .ok compiled → ∃ recording,
      (item.recorded []).compile parent = .ok recording ∧
        recording.Corresponds .mirrors compiled := by
  have builtInRecorded : (item.recorded []).isBuiltIn = true := by
    rw [item.isBuiltIn_recorded, builtIn]
  exact ⟨Item.movesTo_of_isBuiltIn outer builtIn, Item.movesTo_of_isBuiltIn outer builtInRecorded,
    fun parent compiled compiles => (item.recorded_corresponds []).compile compiles⟩

/-- The deployment below the scope of a site. -/
theorem relocated_of_isBuiltIn_deployment : Deployment.item.isBuiltIn = true ∧
    ∃ compiled moved, Deployment.item.compile none = .ok compiled ∧
      Deployment.item.compile (some (.root "site")) = .ok moved ∧
      moved.scope.path = "site/deploy" ∧
      List.Forall₂ (Transition.MovesTo (.root "site")) compiled.transitions moved.transitions := by
  have builtIn : Deployment.item.isBuiltIn = true := rfl
  obtain ⟨compiled, compiles⟩ : ∃ compiled, Deployment.item.compile none = .ok compiled :=
    ⟨_, rfl⟩
  obtain ⟨moved, compilesMoved⟩ :
      ∃ moved, Deployment.item.compile (some (.root "site")) = .ok moved := ⟨_, rfl⟩
  have relocated := (relocated_of_isBuiltIn (.root "site") builtIn).1
  rw [compiles, compilesMoved] at relocated
  cases relocated with
  | ok moves =>
    refine ⟨builtIn, compiled, moved, compiles, compilesMoved, ?_, moves.transitions⟩
    rw [← Except.ok.inj compilesMoved]
    rfl

end ResumableFlow
