import ResumableFlow.Flow

/-!
# Successful compilations

Compilation stops at the first bad name. Where it succeeds, the compiled list repeats the shape of
the tree, and this file says so once: an equivalence for each kind of item that has a name, and
from them the induction principle `Item.CompileCases.induct`. Proofs about compiled lists go by
that principle and do not open the compiler again.
-/

namespace ResumableFlow

variable {σ ε : Type}

theorem bind_eq_ok_iff {α β : Type} {first : Except (FlowError ε) α}
    {second : α → Except (FlowError ε) β} {b : β} :
    first >>= second = .ok b ↔ ∃ a, first = .ok a ∧ second a = .ok b := by
  cases first with
  | error cause =>
    constructor
    · intro h
      cases h
    · rintro ⟨a, h, _⟩
      cases h
  | ok a =>
    constructor
    · intro h
      exact ⟨a, rfl, h⟩
    · rintro ⟨a', h, h'⟩
      cases h
      exact h'

/-- What is done after a name was examined is done only if the name is one. -/
theorem validateName_bind_eq_ok_iff {β : Type} {text : String}
    {second : Unit → Except (FlowError ε) β} {b : β} :
    validateName text >>= second = .ok b ↔ isName text = true ∧ second () = .ok b := by
  rw [bind_eq_ok_iff, validateName]
  by_cases h : isName text = true
  · rw [if_pos h]
    constructor
    · rintro ⟨_, _, done⟩
      exact ⟨h, done⟩
    · rintro ⟨_, done⟩
      exact ⟨(), rfl, done⟩
  · simp [h]

theorem pure_eq_ok_iff {α : Type} {a b : α} :
    (pure a : Except (FlowError ε) α) = .ok b ↔ a = b :=
  ⟨Except.ok.inj, congrArg Except.ok⟩

namespace Item

variable {parent : Option Scope} {name : String} {compiled : Compiled σ ε}

theorem compile_activity_eq_ok_iff {run : Callable σ ε Unit} :
    (activity name run).compile parent = .ok compiled ↔
      isName name = true ∧ .activity (.nest parent name) run = compiled := by
  rw [compile, validateName_bind_eq_ok_iff, pure_eq_ok_iff]

theorem compile_steps_eq_ok_iff {items : List (Item σ ε)} :
    (steps name items).compile parent = .ok compiled ↔
      isName name = true ∧ ∃ transitions,
        compileSteps (.nest parent name) [] (Scope.nest parent name).start items = .ok transitions ∧
          ⟨.nest parent name, transitions⟩ = compiled := by
  rw [compile, validateName_bind_eq_ok_iff]
  simp only [bind_eq_ok_iff, pure_eq_ok_iff]

theorem compile_gate_eq_ok_iff {body : Item σ ε} {condition : Callable σ ε Bool} :
    (gate name body condition).compile parent = .ok compiled ↔
      isName name = true ∧ ∃ inner, body.compile (some (.nest parent name)) = .ok inner ∧
        .gate (.nest parent name) inner condition = compiled := by
  rw [compile, validateName_bind_eq_ok_iff]
  simp only [bind_eq_ok_iff, pure_eq_ok_iff]

theorem compile_loopUntil_eq_ok_iff {body : Item σ ε} {condition : Callable σ ε Bool} :
    (loopUntil name body condition).compile parent = .ok compiled ↔
      isName name = true ∧ ∃ inner, body.compile (some (.nest parent name)) = .ok inner ∧
        .loopUntil (.nest parent name) inner condition = compiled := by
  rw [compile, validateName_bind_eq_ok_iff]
  simp only [bind_eq_ok_iff, pure_eq_ok_iff]

theorem compile_retry_eq_ok_iff {body : Item σ ε} {handler : Handler σ ε} :
    (retry body handler).compile parent = .ok compiled ↔
      ∃ inner, body.compile parent = .ok inner ∧ .retry inner handler = compiled := by
  simp only [compile, bind_eq_ok_iff, pure_eq_ok_iff]

theorem compile_waitFor_eq_ok_iff {condition : Callable σ ε Bool} :
    (waitFor name condition).compile parent = .ok compiled ↔
      isName name = true ∧ .waitFor (.nest parent name) condition = compiled := by
  rw [compile, validateName_bind_eq_ok_iff, pure_eq_ok_iff]

theorem compileSteps_cons_eq_ok_iff {scope : Scope} {taken : List String} {last : Event}
    {item : Item σ ε} {items : List (Item σ ε)} {transitions : List (Transition σ ε)} :
    compileSteps scope taken last (item :: items) = .ok transitions ↔
      ∃ child, item.compile (some scope) = .ok child ∧ child.scope.name ∉ taken ∧
        ∃ following, compileSteps scope (child.scope.name :: taken) child.scope.completed items =
            .ok following ∧
          .fixed last child.scope.start :: (child.transitions ++ following) = transitions := by
  rw [compileSteps, bind_eq_ok_iff]
  refine exists_congr fun child => and_congr_right fun _ => ?_
  by_cases repeated : child.scope.name ∈ taken
  · rw [if_pos repeated]
    constructor
    · intro h
      cases h
    · rintro ⟨fresh, _⟩
      exact absurd repeated fresh
  · rw [if_neg repeated, and_iff_right repeated]
    simp only [bind_eq_ok_iff, pure_eq_ok_iff]

/-- The cases of an induction along a compilation that succeeds. `motive` is the property of an
item and of what it compiles to, `chain` that of the remaining items of a sequence and of what
they compile to. -/
structure CompileCases (motive : Option Scope → Item σ ε → Compiled σ ε → Prop)
    (chain : Scope → List String → Event → List (Item σ ε) → List (Transition σ ε) → Prop) :
    Prop where
  activity : ∀ {parent name run}, isName name = true →
    motive parent (.activity name run) (.activity (.nest parent name) run)
  steps : ∀ {parent name items transitions}, isName name = true →
    chain (.nest parent name) [] (Scope.nest parent name).start items transitions →
    motive parent (.steps name items) ⟨.nest parent name, transitions⟩
  gate : ∀ {parent name body condition inner}, isName name = true →
    motive (some (.nest parent name)) body inner →
    motive parent (.gate name body condition) (.gate (.nest parent name) inner condition)
  loopUntil : ∀ {parent name body condition inner}, isName name = true →
    motive (some (.nest parent name)) body inner →
    motive parent (.loopUntil name body condition) (.loopUntil (.nest parent name) inner condition)
  retry : ∀ {parent body handler inner}, motive parent body inner →
    motive parent (.retry body handler) (.retry inner handler)
  waitFor : ∀ {parent name condition}, isName name = true →
    motive parent (.waitFor name condition) (.waitFor (.nest parent name) condition)
  custom : ∀ {parent name compile compiled}, compile parent = .ok compiled →
    motive parent (.custom name compile) compiled
  nil : ∀ {scope taken last}, chain scope taken last [] [.fixed last scope.completed]
  cons : ∀ {scope taken last item items child following}, motive (some scope) item child →
    child.scope.name ∉ taken →
    chain scope (child.scope.name :: taken) child.scope.completed items following →
    chain scope taken last (item :: items)
      (.fixed last child.scope.start :: (child.transitions ++ following))

namespace CompileCases

variable {motive : Option Scope → Item σ ε → Compiled σ ε → Prop}
  {chain : Scope → List String → Event → List (Item σ ε) → List (Transition σ ε) → Prop}

mutual

/-- The property holds of every item that compiles. -/
theorem induct (cases : CompileCases motive chain) : ∀ (item : Item σ ε) {parent compiled},
    item.compile parent = .ok compiled → motive parent item compiled
  | .activity _ _, _, _, h => by
    obtain ⟨named, rfl⟩ := compile_activity_eq_ok_iff.mp h
    exact cases.activity named
  | .steps _ items, _, _, h => by
    obtain ⟨named, transitions, compiles, rfl⟩ := compile_steps_eq_ok_iff.mp h
    exact cases.steps named (cases.inductSteps items compiles)
  | .gate _ body _, _, _, h => by
    obtain ⟨named, inner, compiles, rfl⟩ := compile_gate_eq_ok_iff.mp h
    exact cases.gate named (cases.induct body compiles)
  | .loopUntil _ body _, _, _, h => by
    obtain ⟨named, inner, compiles, rfl⟩ := compile_loopUntil_eq_ok_iff.mp h
    exact cases.loopUntil named (cases.induct body compiles)
  | .retry body _, _, _, h => by
    obtain ⟨inner, compiles, rfl⟩ := compile_retry_eq_ok_iff.mp h
    exact cases.retry (cases.induct body compiles)
  | .waitFor _ _, _, _, h => by
    obtain ⟨named, rfl⟩ := compile_waitFor_eq_ok_iff.mp h
    exact cases.waitFor named
  | .custom _ _, _, _, h => cases.custom h

theorem inductSteps (cases : CompileCases motive chain) :
    ∀ (items : List (Item σ ε)) {scope taken last transitions},
      compileSteps scope taken last items = .ok transitions →
      chain scope taken last items transitions
  | [], _, _, _, _, h => by
    obtain rfl := pure_eq_ok_iff.mp h
    exact cases.nil
  | item :: items, _, _, _, _, h => by
    obtain ⟨child, compiles, fresh, following, compilesRest, rfl⟩ :=
      compileSteps_cons_eq_ok_iff.mp h
    exact cases.cons (cases.induct item compiles) fresh (cases.inductSteps items compilesRest)

end

end CompileCases

theorem scopeCases : CompileCases (σ := σ) (ε := ε)
    (fun parent item compiled => item.isBuiltIn = true → compiled.scope = .nest parent item.name)
    (fun _ _ _ _ _ => True) where
  activity _ _ := rfl
  steps _ _ _ := rfl
  gate _ _ _ := rfl
  loopUntil _ _ _ := rfl
  retry inner builtIn := inner builtIn
  waitFor _ _ := rfl
  custom _ builtIn := by cases builtIn
  nil := trivial
  cons _ _ _ := trivial

/-- The scope that an item compiles to has the name of the item. -/
theorem scope_of_compile {item : Item σ ε} {parent : Option Scope} {compiled : Compiled σ ε}
    (builtIn : item.isBuiltIn = true) (compiles : item.compile parent = .ok compiled) :
    compiled.scope = .nest parent item.name :=
  scopeCases.induct item compiles builtIn

end Item

/-! ## Parts of compiled lists -/

namespace Compiled

variable (body : Compiled σ ε) (scope : Scope) (condition : Callable σ ε Bool)

theorem subset_gate : body.transitions ⊆ (gate scope body condition).transitions := by
  intro transition mem
  exact List.mem_cons_of_mem _ (List.mem_cons_of_mem _ mem)

theorem leave_mem_gate :
    .fixed body.scope.completed scope.completed ∈ (gate scope body condition).transitions :=
  List.mem_cons_of_mem _ List.mem_cons_self

theorem subset_loopUntil : body.transitions ⊆ (loopUntil scope body condition).transitions := by
  intro transition mem
  exact List.mem_cons_of_mem _ (List.mem_cons_of_mem _ mem)

theorem ask_mem_loopUntil :
    .branch body.scope.completed
        [⟨body.scope.start, "loop condition is not met"⟩,
          ⟨scope.completed, "loop condition is met"⟩]
        condition [scope.completed] [body.scope.start] ∈
      (loopUntil scope body condition).transitions :=
  List.mem_cons_of_mem _ List.mem_cons_self

end Compiled

section links

variable (link : Transition σ ε) (child following : List (Transition σ ε))

theorem subset_link_left : child ⊆ link :: (child ++ following) := by
  intro transition mem
  exact List.mem_cons_of_mem _ (List.mem_append_left _ mem)

theorem subset_link_right : following ⊆ link :: (child ++ following) := by
  intro transition mem
  exact List.mem_cons_of_mem _ (List.mem_append_right _ mem)

end links

theorem Flow.compile_eq_ok_iff {root : Item σ ε} {config : Config} {flow : Flow σ ε} :
    Flow.compile root config = .ok flow ↔ ∃ compiled, root.compile none = .ok compiled ∧
      ⟨compiled.scope, .ofList compiled.transitions, config⟩ = flow := by
  simp only [Flow.compile, bind_eq_ok_iff, pure_eq_ok_iff]

end ResumableFlow
