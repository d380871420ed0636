import Mathlib.Data.List.Forall2
import ResumableFlow.Proofs.Compilation

/-!
# Trees that correspond

Two trees correspond if they differ in their functions at most and the functions at each node are
related. They may run on contexts of different types. What they compile to then corresponds edge by
edge (`Item.Corresponds.compile`), whatever is said of functions and edges, as long as the edges
that the library makes from related functions are related.
-/

namespace ResumableFlow

variable {σ' σ ε : Type}

/-- A relation of functions, and one of edges that holds of the edges made from them. -/
structure Correspondence (σ' σ ε : Type) where
  callable : {α : Type} → Callable σ' ε α → Callable σ ε α → Prop
  transition : Transition σ' ε → Transition σ ε → Prop
  fixed : ∀ source target, transition (.fixed source target) (.fixed source target)
  chosen : ∀ {α : Type} {run' : Callable σ' ε α} {run : Callable σ ε α}, callable run' run →
    ∀ (source : Event) (options : List Destination) (choose : α → List Event),
      transition (.chosen source true options (run'.map choose))
        (.chosen source true options (run.map choose))
  guarded : ∀ {inner' inner} {handler' : Handler σ' ε} {handler : Handler σ ε},
    transition inner' inner → (∀ cause, callable (handler' cause) (handler cause)) →
    ∀ restart, transition (.guarded inner' restart handler') (.guarded inner restart handler)

/-- The compilations are for the same scope, and their edges are related one by one. -/
structure Compiled.Corresponds (C : Correspondence σ' σ ε) (compiled' : Compiled σ' ε)
    (compiled : Compiled σ ε) : Prop where
  scope : compiled'.scope = compiled.scope
  edges : List.Forall₂ C.transition compiled'.transitions compiled.transitions

namespace Item

/-- The trees differ in their functions at most, and these are related node by node. -/
inductive Corresponds (C : Correspondence σ' σ ε) : Item σ' ε → Item σ ε → Prop
  | activity (name : String) {run' : Callable σ' ε Unit} {run : Callable σ ε Unit}
    (related : C.callable run' run) : Corresponds C (.activity name run') (.activity name run)
  | steps (name : String) {items' : List (Item σ' ε)} {items : List (Item σ ε)}
    (related : List.Forall₂ (Corresponds C) items' items) :
    Corresponds C (.steps name items') (.steps name items)
  | gate (name : String) {body' : Item σ' ε} {body : Item σ ε} {condition' : Callable σ' ε Bool}
    {condition : Callable σ ε Bool} (inner : Corresponds C body' body)
    (related : C.callable condition' condition) :
    Corresponds C (.gate name body' condition') (.gate name body condition)
  | loopUntil (name : String) {body' : Item σ' ε} {body : Item σ ε}
    {condition' : Callable σ' ε Bool} {condition : Callable σ ε Bool}
    (inner : Corresponds C body' body) (related : C.callable condition' condition) :
    Corresponds C (.loopUntil name body' condition') (.loopUntil name body condition)
  | retry {body' : Item σ' ε} {body : Item σ ε} {handler' : Handler σ' ε} {handler : Handler σ ε}
    (inner : Corresponds C body' body)
    (related : ∀ cause, C.callable (handler' cause) (handler cause)) :
    Corresponds C (.retry body' handler') (.retry body handler)
  | waitFor (name : String) {condition' : Callable σ' ε Bool} {condition : Callable σ ε Bool}
    (related : C.callable condition' condition) :
    Corresponds C (.waitFor name condition') (.waitFor name condition)
  | custom (name : String) {compile' : Option Scope → Except (FlowError ε) (Compiled σ' ε)}
    {compile : Option Scope → Except (FlowError ε) (Compiled σ ε)}
    (related : ∀ parent compiled, compile parent = .ok compiled →
      ∃ compiled', compile' parent = .ok compiled' ∧ compiled'.Corresponds C compiled) :
    Corresponds C (.custom name compile') (.custom name compile)

variable {C : Correspondence σ' σ ε}

mutual

theorem Corresponds.isBuiltIn_eq : ∀ {item' : Item σ' ε} {item : Item σ ε},
    item'.Corresponds C item → item'.isBuiltIn = item.isBuiltIn
  | _, .activity _ _, .activity _ _ => rfl
  | _, .steps _ _, .steps _ related => (areBuiltIn_eq related :)
  | _, .gate _ _ _, .gate _ inner _ => (inner.isBuiltIn_eq :)
  | _, .loopUntil _ _ _, .loopUntil _ inner _ => (inner.isBuiltIn_eq :)
  | _, .retry _ _, .retry inner _ => (inner.isBuiltIn_eq :)
  | _, .waitFor _ _, .waitFor _ _ => rfl
  | _, .custom _ _, .custom _ _ => rfl

theorem Corresponds.areBuiltIn_eq : ∀ {items' : List (Item σ' ε)} {items : List (Item σ ε)},
    List.Forall₂ (Corresponds C) items' items → areBuiltIn items' = areBuiltIn items
  | _, [], .nil => rfl
  | _, _ :: _, .cons head rest => by
    rw [areBuiltIn, areBuiltIn, head.isBuiltIn_eq, areBuiltIn_eq rest]

end

theorem Corresponds.guarded_map {transitions' : List (Transition σ' ε)}
    {transitions : List (Transition σ ε)}
    (edges : List.Forall₂ C.transition transitions' transitions) (restart : Event)
    {handler' : Handler σ' ε} {handler : Handler σ ε}
    (related : ∀ cause, C.callable (handler' cause) (handler cause)) :
    List.Forall₂ C.transition
      (transitions'.map fun transition => .guarded transition restart handler')
      (transitions.map fun transition => .guarded transition restart handler) := by
  rw [List.forall₂_map_left_iff, List.forall₂_map_right_iff]
  exact edges.imp fun _ _ edge => C.guarded edge related restart

theorem correspondsCases (C : Correspondence σ' σ ε) : CompileCases (σ := σ) (ε := ε)
    (fun parent item compiled => ∀ item' : Item σ' ε, item'.Corresponds C item →
      ∃ compiled', item'.compile parent = .ok compiled' ∧ compiled'.Corresponds C compiled)
    (fun scope taken last items transitions => ∀ items' : List (Item σ' ε),
      List.Forall₂ (Corresponds C) items' items → ∃ transitions',
        compileSteps scope taken last items' = .ok transitions' ∧
          List.Forall₂ C.transition transitions' transitions) where
  activity := by
    intro parent name run named item' same
    cases same with
    | activity _ related =>
      refine ⟨_, compile_activity_eq_ok_iff.mpr ⟨named, rfl⟩, rfl, ?_⟩
      exact .cons (C.chosen related _ _ _) .nil
  steps := by
    intro parent name items transitions named chain item' same
    cases same with
    | steps _ related =>
      obtain ⟨transitions', compiles, edges⟩ := chain _ related
      exact ⟨_, compile_steps_eq_ok_iff.mpr ⟨named, transitions', compiles, rfl⟩, rfl, edges⟩
  gate := by
    intro parent name body condition compiled named corresponds item' same
    cases same with
    | gate _ inner related =>
      obtain ⟨compiled', compiles, scope, edges⟩ := corresponds _ inner
      refine ⟨_, compile_gate_eq_ok_iff.mpr ⟨named, compiled', compiles, rfl⟩, rfl, ?_⟩
      simp only [Compiled.gate, scope]
      exact .cons (C.chosen related _ _ _) (.cons (C.fixed _ _) edges)
  loopUntil := by
    intro parent name body condition compiled named corresponds item' same
    cases same with
    | loopUntil _ inner related =>
      obtain ⟨compiled', compiles, scope, edges⟩ := corresponds _ inner
      refine ⟨_, compile_loopUntil_eq_ok_iff.mpr ⟨named, compiled', compiles, rfl⟩, rfl, ?_⟩
      simp only [Compiled.loopUntil, scope]
      exact .cons (C.fixed _ _) (.cons (C.chosen related _ _ _) edges)
  retry := by
    intro parent body handler compiled corresponds item' same
    cases same with
    | retry inner related =>
      obtain ⟨compiled', compiles, scope, edges⟩ := corresponds _ inner
      refine ⟨_, compile_retry_eq_ok_iff.mpr ⟨compiled', compiles, rfl⟩, scope, ?_⟩
      simp only [Compiled.retry, scope]
      exact Corresponds.guarded_map edges _ related
  waitFor := by
    intro parent name condition named item' same
    cases same with
    | waitFor _ related =>
      refine ⟨_, compile_waitFor_eq_ok_iff.mpr ⟨named, rfl⟩, rfl, ?_⟩
      exact .cons (C.chosen related _ _ _) .nil
  custom := by
    intro parent name compile compiled compiles item' same
    cases same with
    | custom _ related => exact related parent compiled compiles
  nil := by
    intro scope taken last items' same
    cases same with
    | nil => exact ⟨_, rfl, .cons (C.fixed _ _) .nil⟩
  cons := by
    intro scope taken last item items child following corresponds fresh chain items' same
    cases same with
    | cons head rest =>
      obtain ⟨child', compilesChild, scopeChild, edgesChild⟩ := corresponds _ head
      obtain ⟨following', compilesFollowing, edgesFollowing⟩ := chain _ rest
      rw [← scopeChild] at fresh compilesFollowing
      refine ⟨_, compileSteps_cons_eq_ok_iff.mpr
        ⟨child', compilesChild, fresh, following', compilesFollowing, rfl⟩, ?_⟩
      rw [scopeChild]
      exact .cons (C.fixed _ _) (List.rel_append edgesChild edgesFollowing)

/-- Trees that correspond compile to lists that correspond. -/
theorem Corresponds.compile {item' : Item σ' ε} {item : Item σ ε} (h : item'.Corresponds C item)
    {parent : Option Scope} {compiled : Compiled σ ε}
    (compiles : item.compile parent = .ok compiled) :
    ∃ compiled', item'.compile parent = .ok compiled' ∧ compiled'.Corresponds C compiled :=
  (correspondsCases C).induct item compiles item' h

end Item

/-! ## Their flows -/

/-- Lists whose edges are related one by one hold related edges under the same id. -/
theorem find?_rel {R : Transition σ' ε → Transition σ ε → Prop}
    (source : ∀ {a b}, R a b → a.source = b.source) {front : List (Transition σ' ε)}
    {back : List (Transition σ ε)} (h : List.Forall₂ R front back) (id : String) :
    Option.Rel R (front.find? fun transition => transition.source.id = id)
      (back.find? fun transition => transition.source.id = id) := by
  induction h with
  | nil => exact .none
  | cons head _ ih =>
    rw [List.find?_cons, List.find?_cons, source head]
    split
    · exact .some head
    · exact ih

theorem Table.lookup_rel {R : Transition σ' ε → Transition σ ε → Prop}
    (source : ∀ {a b}, R a b → a.source = b.source) {front : List (Transition σ' ε)}
    {back : List (Transition σ ε)} (h : List.Forall₂ R front back) (state : State) :
    Option.Rel R ((ofList front).lookup state) ((ofList back).lookup state) := by
  obtain ⟨events⟩ := state
  simp only [lookup]
  induction events with
  | nil => exact .none
  | cons id rest ih =>
    have found := find?_rel source h id
    rw [← get?_ofList, ← get?_ofList] at found
    rw [List.findSome?_cons, List.findSome?_cons]
    generalize (ofList front).get? id = foundFront, (ofList back).get? id = foundBack at found
    cases found with
    | none => exact ih
    | some related => exact .some related

/-- The flows have the same scope and settings, and their edges are related one by one. -/
structure Flow.Related (R : Transition σ' ε → Transition σ ε → Prop) (flow' : Flow σ' ε)
    (flow : Flow σ ε) : Prop where
  scope : flow'.scope = flow.scope
  config : flow'.config = flow.config
  edges : List.Forall₂ R flow'.table.transitions flow.table.transitions
  table' : flow'.table = .ofList flow'.table.transitions
  table : flow.table = .ofList flow.table.transitions

theorem Item.Corresponds.compileFlow {C : Correspondence σ' σ ε} {root' : Item σ' ε}
    {root : Item σ ε} (h : root'.Corresponds C root) {config : Config} {flow : Flow σ ε}
    (compiles : Flow.compile root config = .ok flow) :
    ∃ flow', Flow.compile root' config = .ok flow' ∧ flow'.Related C.transition flow := by
  obtain ⟨compiled, compilesRoot, rfl⟩ := Flow.compile_eq_ok_iff.mp compiles
  obtain ⟨compiled', compilesRoot', scope, edges⟩ := h.compile compilesRoot
  refine ⟨_, Flow.compile_eq_ok_iff.mpr ⟨compiled', compilesRoot', rfl⟩, ?_⟩
  exact ⟨scope, rfl, edges, rfl, rfl⟩

namespace Flow.Related

variable {R : Transition σ' ε → Transition σ ε → Prop} {flow' : Flow σ' ε} {flow : Flow σ ε}

theorem imp {S : Transition σ' ε → Transition σ ε → Prop} (h : flow'.Related R flow)
    (weaker : ∀ a b, R a b → S a b) : flow'.Related S flow :=
  ⟨h.scope, h.config, h.edges.imp weaker, h.table', h.table⟩

theorem isCompleted_eq (h : flow'.Related R flow) (frontier : State) :
    flow'.isCompleted frontier = flow.isCompleted frontier := by
  unfold Flow.isCompleted Flow.completed
  rw [h.scope]

theorem entry_eq (h : flow'.Related R flow) (state : State) :
    flow'.entry state = flow.entry state := by
  simp only [Flow.entry, Flow.start, h.scope]

theorem lookup (h : flow'.Related R flow) (source : ∀ {a b}, R a b → a.source = b.source)
    (frontier : State) :
    Option.Rel R (flow'.table.lookup frontier) (flow.table.lookup frontier) := by
  rw [h.table', h.table]
  exact Table.lookup_rel source h.edges frontier

end Flow.Related

/-- Where the walk of the one flow comes to a good end, the other flow walks the same way if it
takes the same steps on the way to good ends. -/
theorem Flow.walk_eq_of_step {a b : Flow σ ε} (Good : Ending ε → Prop)
    (completes : ∀ frontier, a.isCompleted frontier = b.isCompleted frontier)
    (steps : ∀ frontier context,
      (∀ ending, (b.step frontier context).1 = .ends ending → Good ending) →
      a.step frontier context = b.step frontier context) (left : Nat) :
    ∀ (seen : List State) (frontier : State) (context : σ),
    Good (b.walk left seen frontier context).1 →
    a.walk left seen frontier context = b.walk left seen frontier context := by
  induction left with
  | zero =>
    intro seen frontier context _
    rw [walk, walk, completes]
  | succ left ih =>
    intro seen frontier context good
    have same := steps frontier context
    rcases stepped : b.step frontier context with ⟨ending | next, after⟩ <;> rw [stepped] at same
    · rw [walk_ends stepped] at good
      have stepped' := same fun ending' eq => Step.ends.inj eq ▸ good
      rw [walk_ends stepped, walk_ends stepped']
    · have stepped' := same fun ending eq => by cases eq
      by_cases repeated : next ∈ seen
      · rw [walk_repeats stepped repeated, walk_repeats stepped' repeated]
      · rw [walk_passes stepped repeated] at good
        rw [walk_passes stepped repeated, walk_passes stepped' repeated]
        exact ih (next :: seen) next after good

end ResumableFlow
