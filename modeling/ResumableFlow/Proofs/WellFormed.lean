import Mathlib.Data.List.Nodup
import ResumableFlow.Deploy.Flow
import ResumableFlow.Proofs.Compilation
import ResumableFlow.Proofs.Regions

/-!
# Well-formed compilations

A compiled list is well formed when it leads from the start of its scope to its completion, stays
in the region of that scope, and leaves each event at most once. Every item of the library
compiles to a well-formed list if the items of the caller in it do (`wellFormed_of_compile`), so a
table of such a list has one candidate for each source and the lookup, which takes the first,
passes none over.

The induction is along the compilation. The invariant for the items of a sequence that are still
to come is `WellFormedChain`: their events lie in the regions of names that are not taken yet.
-/

namespace ResumableFlow

variable {σ ε : Type}

/-- The events that the transitions leave, in order. -/
def sourcesOf (transitions : List (Transition σ ε)) : List Event :=
  transitions.map Transition.source

/-- The events that the transitions say they may lead to, in order. -/
def targetsOf (transitions : List (Transition σ ε)) : List Event :=
  transitions.flatMap fun transition => transition.destinations.map Destination.event

theorem sourcesOf_append (front back : List (Transition σ ε)) :
    sourcesOf (front ++ back) = sourcesOf front ++ sourcesOf back := List.map_append

theorem sourcesOf_cons (transition : Transition σ ε) (rest : List (Transition σ ε)) :
    sourcesOf (transition :: rest) = transition.source :: sourcesOf rest := rfl

theorem mem_sourcesOf {transitions : List (Transition σ ε)} {event : Event} :
    event ∈ sourcesOf transitions ↔ ∃ transition ∈ transitions, transition.source = event :=
  List.mem_map

theorem eq_of_source_eq {transitions : List (Transition σ ε)}
    (nodup : (sourcesOf transitions).Nodup) {a b : Transition σ ε} (memA : a ∈ transitions)
    (memB : b ∈ transitions) (same : a.source = b.source) : a = b :=
  List.inj_on_of_nodup_map nodup memA memB same

theorem targetsOf_append (front back : List (Transition σ ε)) :
    targetsOf (front ++ back) = targetsOf front ++ targetsOf back := List.flatMap_append

theorem targetsOf_cons (transition : Transition σ ε) (rest : List (Transition σ ε)) :
    targetsOf (transition :: rest) =
      transition.destinations.map Destination.event ++ targetsOf rest := rfl

theorem sourcesOf_retry (compiled : Compiled σ ε) (handler : Handler σ ε) :
    sourcesOf (compiled.retry handler).transitions = sourcesOf compiled.transitions := by
  simp only [sourcesOf, Compiled.retry, List.map_map]
  rfl

/-- What every compilation of an item below `parent` satisfies. -/
structure Compiled.WellFormed (parent : Option Scope) (compiled : Compiled σ ε) : Prop where
  named : ∃ name, isName name = true ∧ compiled.scope = .nest parent name
  nodup : (sourcesOf compiled.transitions).Nodup
  source_enclosed : ∀ event ∈ sourcesOf compiled.transitions, compiled.scope.Encloses event.scope
  target_enclosed : ∀ event ∈ targetsOf compiled.transitions, compiled.scope.Encloses event.scope
  start_mem : compiled.scope.start ∈ sourcesOf compiled.transitions
  completed_not_mem : compiled.scope.completed ∉ sourcesOf compiled.transitions
  target_mem : ∀ event ∈ targetsOf compiled.transitions,
    event ∈ sourcesOf compiled.transitions ∨ event = compiled.scope.completed

/-- What the rest of the sequence `scope` compiles to, from the event `last` on, when the names
`taken` have been used. -/
structure WellFormedChain (scope : Scope) (taken : List String) (last : Event)
    (transitions : List (Transition σ ε)) : Prop where
  sources : ∃ later, sourcesOf transitions = last :: later ∧ later.Nodup ∧
    ∀ event ∈ later, ∃ name, isName name = true ∧ name ∉ taken ∧
      (scope.within name).Encloses event.scope
  target_mem : ∀ event ∈ targetsOf transitions,
    event ∈ sourcesOf transitions ∨ event = scope.completed

namespace Compiled.WellFormed

variable {parent : Option Scope} {compiled : Compiled σ ε}

theorem scope_eq {scope : Scope} (h : compiled.WellFormed (some scope)) :
    isName compiled.scope.name = true ∧ compiled.scope = scope.within compiled.scope.name := by
  obtain ⟨name, isName, eq⟩ := h.named
  rw [eq]
  exact ⟨isName, rfl⟩

/-- Since destinations are sources or the completion, their paths are enclosed as well. -/
theorem of_sources (named : ∃ name, isName name = true ∧ compiled.scope = .nest parent name)
    (nodup : (sourcesOf compiled.transitions).Nodup)
    (source_enclosed : ∀ event ∈ sourcesOf compiled.transitions,
      compiled.scope.Encloses event.scope)
    (start_mem : compiled.scope.start ∈ sourcesOf compiled.transitions)
    (completed_not_mem : compiled.scope.completed ∉ sourcesOf compiled.transitions)
    (target_mem : ∀ event ∈ targetsOf compiled.transitions,
      event ∈ sourcesOf compiled.transitions ∨ event = compiled.scope.completed) :
    compiled.WellFormed parent where
  named := named
  nodup := nodup
  source_enclosed := source_enclosed
  target_enclosed := by
    intro event mem
    rcases target_mem event mem with isSource | rfl
    · exact source_enclosed event isSource
    · exact compiled.scope.encloses_path
  start_mem := start_mem
  completed_not_mem := completed_not_mem
  target_mem := target_mem

theorem source_within {scope : Scope} (h : compiled.WellFormed (some scope)) :
    ∀ event ∈ sourcesOf compiled.transitions,
      (scope.within compiled.scope.name).Encloses event.scope := by
  intro event mem
  rw [← h.scope_eq.2]
  exact h.source_enclosed event mem

theorem not_mem_of_scope_eq {scope : Scope} (h : compiled.WellFormed (some scope)) {event : Event}
    (path : event.scope = scope.path) : event ∉ sourcesOf compiled.transitions := by
  intro mem
  have below := h.source_within event mem
  rw [path] at below
  exact scope.not_within_encloses_path _ below

theorem completed_ne_of_scope_eq {scope : Scope} (h : compiled.WellFormed (some scope))
    {event : Event} (path : event.scope = scope.path) : event ≠ compiled.scope.completed := by
  intro eq
  have below : (scope.within compiled.scope.name).Encloses scope.path := by
    rw [← h.scope_eq.2, ← path, eq]
    exact compiled.scope.encloses_path
  exact scope.not_within_encloses_path _ below

/-- A compilation that leaves its own start and the completion of its body, and beyond that only
what the body leaves. -/
theorem around {body : Compiled σ ε} (h : body.WellFormed (some compiled.scope))
    (named : ∃ name, isName name = true ∧ compiled.scope = .nest parent name)
    (sources : sourcesOf compiled.transitions =
      compiled.scope.start :: body.scope.completed :: sourcesOf body.transitions)
    (targets : ∀ event ∈ targetsOf compiled.transitions, event = body.scope.start ∨
      event = compiled.scope.completed ∨ event ∈ targetsOf body.transitions) :
    compiled.WellFormed parent := by
  apply of_sources named
  · rw [sources, List.nodup_cons, List.nodup_cons, List.mem_cons, not_or]
    exact ⟨⟨Scope.start_ne_completed _ _, h.not_mem_of_scope_eq rfl⟩, h.completed_not_mem, h.nodup⟩
  · intro event mem
    rw [sources, List.mem_cons, List.mem_cons] at mem
    rcases mem with rfl | rfl | mem
    · exact compiled.scope.encloses_path
    · have below : (compiled.scope.within body.scope.name).Encloses body.scope.path := by
        rw [← h.scope_eq.2]
        exact body.scope.encloses_path
      exact below.of_within
    · exact (h.source_within event mem).of_within
  · rw [sources]
    exact List.mem_cons_self
  · rw [sources, List.mem_cons, List.mem_cons, not_or, not_or]
    exact ⟨(Scope.start_ne_completed _ _).symm, h.completed_ne_of_scope_eq rfl,
      h.not_mem_of_scope_eq rfl⟩
  · intro event mem
    rw [sources, List.mem_cons, List.mem_cons]
    rcases targets event mem with rfl | rfl | mem
    · exact Or.inl (Or.inr (Or.inr h.start_mem))
    · exact Or.inr rfl
    · rcases h.target_mem event mem with mem | rfl
      · exact Or.inl (Or.inr (Or.inr mem))
      · exact Or.inl (Or.inr (Or.inl rfl))

/-- A single edge that leaves the start and leads nowhere but to the start and the completion. -/
theorem single {transition : Transition σ ε} (transitions : compiled.transitions = [transition])
    (named : ∃ name, isName name = true ∧ compiled.scope = .nest parent name)
    (source : transition.source = compiled.scope.start)
    (targets : ∀ destination ∈ transition.destinations,
      destination.event = compiled.scope.start ∨ destination.event = compiled.scope.completed) :
    compiled.WellFormed parent := by
  have sources : sourcesOf compiled.transitions = [compiled.scope.start] := by
    rw [transitions, sourcesOf_cons, source]
    rfl
  apply of_sources named
  · rw [sources]
    exact List.pairwise_singleton _ _
  · intro event mem
    rw [sources, List.mem_singleton] at mem
    rw [mem]
    exact compiled.scope.encloses_path
  · rw [sources]
    exact List.mem_singleton.mpr rfl
  · rw [sources, List.mem_singleton]
    exact (Scope.start_ne_completed _ _).symm
  · intro event mem
    rw [transitions, targetsOf_cons, List.mem_append, List.mem_map] at mem
    rw [sources, List.mem_singleton]
    rcases mem with ⟨destination, mem, rfl⟩ | mem
    · exact targets destination mem
    · cases mem

/-- Handlers lead back to the start of the body and change nothing else. -/
theorem retry (h : compiled.WellFormed parent) (handler : Handler σ ε) :
    (compiled.retry handler).WellFormed parent := by
  have sources := sourcesOf_retry compiled handler
  apply of_sources
  · exact h.named
  · rw [sources]
    exact h.nodup
  · rw [sources]
    exact h.source_enclosed
  · rw [sources]
    exact h.start_mem
  · rw [sources]
    exact h.completed_not_mem
  · intro event mem
    rw [sources]
    simp only [targetsOf, Compiled.retry, List.flatMap_map, Transition.destinations,
      List.map_append, List.mem_flatMap, List.mem_append, List.map_cons, List.map_nil,
      List.mem_singleton] at mem
    obtain ⟨transition, mem, isTarget | rfl⟩ := mem
    · exact h.target_mem event (List.mem_flatMap.mpr ⟨transition, mem, isTarget⟩)
    · exact Or.inl h.start_mem

end Compiled.WellFormed

namespace WellFormedChain

variable {scope : Scope} {taken : List String} {last : Event}

/-- After the last item there is the silent edge to the completion of the sequence. -/
theorem nil : WellFormedChain scope taken last [.fixed (σ := σ) (ε := ε) last scope.completed] where
  sources := ⟨[], rfl, List.nodup_nil, by intro event mem; cases mem⟩
  target_mem := by
    intro event mem
    exact Or.inr (List.mem_singleton.mp mem)

/-- One more item in front, with a name that the items behind it do not use. -/
theorem cons {child : Compiled σ ε} {following : List (Transition σ ε)}
    (h : child.WellFormed (some scope)) (fresh : child.scope.name ∉ taken)
    (chain : WellFormedChain scope (child.scope.name :: taken) child.scope.completed following) :
    WellFormedChain scope taken last
      (.fixed last child.scope.start :: (child.transitions ++ following)) := by
  obtain ⟨later, sources, nodup, below⟩ := chain.sources
  have fromLater : ∀ event ∈ later, ¬(scope.within child.scope.name).Encloses event.scope := by
    intro event mem inChild
    obtain ⟨name, isName, free, inOther⟩ := below event mem
    have same := Scope.name_eq_of_encloses h.scope_eq.1 isName inChild inOther
    exact free (same ▸ List.mem_cons_self)
  have completedBelow :
      (scope.within child.scope.name).Encloses child.scope.completed.scope := by
    rw [← h.scope_eq.2]
    exact child.scope.encloses_path
  refine ⟨⟨sourcesOf child.transitions ++ child.scope.completed :: later, ?_, ?_, ?_⟩, ?_⟩
  · rw [sourcesOf_cons, sourcesOf_append, sources]
    rfl
  · rw [List.nodup_append, List.nodup_cons]
    refine ⟨h.nodup, ⟨fun mem => fromLater _ mem completedBelow, nodup⟩, ?_⟩
    intro event mem event' mem' eq
    subst eq
    rcases List.mem_cons.mp mem' with rfl | mem'
    · exact h.completed_not_mem mem
    · exact fromLater event mem' (h.source_within event mem)
  · intro event mem
    rw [List.mem_append, List.mem_cons] at mem
    rcases mem with mem | rfl | mem
    · exact ⟨_, h.scope_eq.1, fresh, h.source_within event mem⟩
    · exact ⟨_, h.scope_eq.1, fresh, completedBelow⟩
    · obtain ⟨name, isName, free, encloses⟩ := below event mem
      exact ⟨name, isName, fun mem => free (List.mem_cons_of_mem _ mem), encloses⟩
  · intro event mem
    rw [targetsOf_cons, targetsOf_append, List.mem_append, List.mem_append] at mem
    rw [sourcesOf_cons, sourcesOf_append, List.mem_cons, List.mem_append]
    rcases mem with mem | mem | mem
    · obtain rfl : event = child.scope.start := List.mem_singleton.mp mem
      exact Or.inl (Or.inr (Or.inl h.start_mem))
    · rcases h.target_mem event mem with mem | rfl
      · exact Or.inl (Or.inr (Or.inl mem))
      · exact Or.inl (Or.inr (Or.inr (sources ▸ List.mem_cons_self)))
    · rcases chain.target_mem event mem with mem | rfl
      · exact Or.inl (Or.inr (Or.inr mem))
      · exact Or.inr rfl

theorem steps {parent : Option Scope} {name : String} {transitions : List (Transition σ ε)}
    (named : isName name = true)
    (chain : WellFormedChain (.nest parent name) [] (Scope.nest parent name).start transitions) :
    Compiled.WellFormed parent ⟨.nest parent name, transitions⟩ := by
  obtain ⟨later, sources, nodup, below⟩ := chain.sources
  have notLater : ∀ event, event.scope = (Scope.nest parent name).path → event ∉ later := by
    intro event path mem
    obtain ⟨child, _, _, encloses⟩ := below event mem
    rw [path] at encloses
    exact Scope.not_within_encloses_path _ child encloses
  apply Compiled.WellFormed.of_sources
  · exact ⟨name, named, rfl⟩
  · show (sourcesOf transitions).Nodup
    rw [sources, List.nodup_cons]
    exact ⟨notLater _ rfl, nodup⟩
  · show ∀ event ∈ sourcesOf transitions, _
    intro event mem
    rw [sources, List.mem_cons] at mem
    rcases mem with rfl | mem
    · exact Scope.encloses_path _
    · obtain ⟨child, _, _, encloses⟩ := below event mem
      exact encloses.of_within
  · show _ ∈ sourcesOf transitions
    rw [sources]
    exact List.mem_cons_self
  · show _ ∉ sourcesOf transitions
    rw [sources, List.mem_cons, not_or]
    exact ⟨(Scope.start_ne_completed _ _).symm, notLater _ rfl⟩
  · exact chain.target_mem

end WellFormedChain

/-! ## Trees -/

namespace Item

mutual

/-- How the items of the caller in the tree compile, in order. -/
def customs : Item σ ε → List (Option Scope → Except (FlowError ε) (Compiled σ ε))
  | activity _ _ => []
  | steps _ items => customsOf items
  | gate _ body _ => body.customs
  | loopUntil _ body _ => body.customs
  | retry body _ => body.customs
  | waitFor _ _ => []
  | custom _ compile => [compile]

def customsOf : List (Item σ ε) → List (Option Scope → Except (FlowError ε) (Compiled σ ε))
  | [] => []
  | item :: items => item.customs ++ customsOf items

end

/-- Each of these compilations is well formed wherever it succeeds. -/
def CompileWellFormed
    (compiles : List (Option Scope → Except (FlowError ε) (Compiled σ ε))) : Prop :=
  ∀ compile ∈ compiles, ∀ parent compiled, compile parent = .ok compiled →
    compiled.WellFormed parent

mutual

theorem customs_of_isBuiltIn : ∀ item : Item σ ε, item.isBuiltIn = true → item.customs = []
  | activity _ _, _ => rfl
  | steps _ items, h => customsOf_of_areBuiltIn items h
  | gate _ body _, h => body.customs_of_isBuiltIn h
  | loopUntil _ body _, h => body.customs_of_isBuiltIn h
  | retry body _, h => body.customs_of_isBuiltIn h
  | waitFor _ _, _ => rfl

theorem customsOf_of_areBuiltIn :
    ∀ items : List (Item σ ε), areBuiltIn items = true → customsOf items = []
  | [], _ => rfl
  | item :: items, h => by
    rw [areBuiltIn, Bool.and_eq_true] at h
    rw [customsOf, item.customs_of_isBuiltIn h.1, customsOf_of_areBuiltIn items h.2]
    rfl

end

/-- Each kind of item compiles to a well-formed list around well-formed parts. -/
theorem wellFormedCases : CompileCases (σ := σ) (ε := ε)
    (fun parent item compiled => CompileWellFormed item.customs → compiled.WellFormed parent)
    (fun scope taken last items transitions => CompileWellFormed (customsOf items) →
      WellFormedChain scope taken last transitions) where
  activity {_ name _} named _ := by
    apply Compiled.WellFormed.single rfl ⟨name, named, rfl⟩ rfl
    intro destination mem
    rw [List.mem_singleton.mp mem]
    exact Or.inr rfl
  steps named chain trusted := (chain trusted).steps named
  gate {_ name _ _ _} named inner trusted := by
    apply Compiled.WellFormed.around (inner trusted) ⟨name, named, rfl⟩ rfl
    intro event mem
    simp only [Compiled.gate, Transition.branch, targetsOf_cons, Transition.destinations,
      List.map_cons, List.map_nil, List.mem_append, List.mem_cons, List.not_mem_nil,
      or_false] at mem
    rcases mem with (rfl | rfl) | rfl | mem
    · exact Or.inl rfl
    · exact Or.inr (Or.inl rfl)
    · exact Or.inr (Or.inl rfl)
    · exact Or.inr (Or.inr mem)
  loopUntil {_ name _ _ _} named inner trusted := by
    apply Compiled.WellFormed.around (inner trusted) ⟨name, named, rfl⟩ rfl
    intro event mem
    simp only [Compiled.loopUntil, Transition.branch, targetsOf_cons, Transition.destinations,
      List.map_cons, List.map_nil, List.mem_append, List.mem_cons, List.not_mem_nil,
      or_false] at mem
    rcases mem with rfl | (rfl | rfl) | mem
    · exact Or.inl rfl
    · exact Or.inl rfl
    · exact Or.inr (Or.inl rfl)
    · exact Or.inr (Or.inr mem)
  retry inner trusted := (inner trusted).retry _
  waitFor {_ name _} named _ := by
    apply Compiled.WellFormed.single rfl ⟨name, named, rfl⟩ rfl
    intro destination mem
    simp only [Transition.branch, Transition.destinations, List.mem_cons, List.not_mem_nil,
      or_false] at mem
    rcases mem with rfl | rfl
    · exact Or.inl rfl
    · exact Or.inr rfl
  custom compiles trusted := trusted _ List.mem_cons_self _ _ compiles
  nil _ := .nil
  cons inner fresh chain trusted :=
    .cons (inner fun compile mem => trusted compile (List.mem_append_left _ mem)) fresh
      (chain fun compile mem => trusted compile (List.mem_append_right _ mem))

theorem wellFormed_of_customs {item : Item σ ε} {parent : Option Scope} {compiled : Compiled σ ε}
    (trusted : CompileWellFormed item.customs) (compiles : item.compile parent = .ok compiled) :
    compiled.WellFormed parent :=
  wellFormedCases.induct item compiles trusted

theorem wellFormed_of_isBuiltIn {item : Item σ ε} {parent : Option Scope} {compiled : Compiled σ ε}
    (builtIn : item.isBuiltIn = true) (compiles : item.compile parent = .ok compiled) :
    compiled.WellFormed parent := by
  apply wellFormed_of_customs _ compiles
  rw [item.customs_of_isBuiltIn builtIn]
  intro compile mem
  cases mem

end Item

/-- Of transitions with different sources, one alone leaves each source. -/
theorem candidates_of_nodup {transitions : List (Transition σ ε)}
    (nodup : (sourcesOf transitions).Nodup) {transition : Transition σ ε}
    (mem : transition ∈ transitions) :
    (Table.ofList transitions).candidates transition.source.id = [transition] := by
  rw [Table.candidates_ofList]
  induction transitions with
  | nil => cases mem
  | cons first rest ih =>
    rw [sourcesOf_cons, List.nodup_cons] at nodup
    rw [List.filter_cons]
    rcases List.mem_cons.mp mem with rfl | mem
    · rw [if_pos (by simp), List.cons.injEq, List.filter_eq_nil_iff]
      refine ⟨rfl, fun other memRest => ?_⟩
      simp only [decide_eq_true_eq]
      intro sameId
      exact nodup.1 (mem_sourcesOf.mpr ⟨other, memRest, Event.id_injective sameId⟩)
    · rw [if_neg, ih nodup.2 mem]
      simp only [decide_eq_true_eq]
      intro sameId
      exact nodup.1 (mem_sourcesOf.mpr ⟨transition, mem, (Event.id_injective sameId).symm⟩)

/-- A compilation is well formed wherever those of the caller's items in the tree are. The table
of a tree of the library's own kinds has exactly one candidate for each source. -/
theorem wellFormed_of_compile {item : Item σ ε} {parent : Option Scope} {compiled : Compiled σ ε}
    (compiles : item.compile parent = .ok compiled) :
    (Item.CompileWellFormed item.customs → compiled.WellFormed parent) ∧
      (item.isBuiltIn = true → compiled.WellFormed parent ∧
        ∀ transition ∈ compiled.transitions,
          (Table.ofList compiled.transitions).candidates transition.source.id = [transition]) := by
  refine ⟨fun trusted => Item.wellFormed_of_customs trusted compiles, fun builtIn => ?_⟩
  have wellFormed := Item.wellFormed_of_isBuiltIn builtIn compiles
  exact ⟨wellFormed, fun transition mem => candidates_of_nodup wellFormed.nodup mem⟩

/-- The deployment beside an item of the caller that compiles as a wait does. -/
def watchedDeployment : Item Deployment String :=
  .steps "watched"
    [Deployment.item, .custom "probe" (Item.waitFor "probe" Deployment.isReady).compile]

theorem wellFormed_of_compile_watchedDeployment :
    ∃ compiled, watchedDeployment.compile none = .ok compiled ∧
      Item.CompileWellFormed watchedDeployment.customs ∧ compiled.WellFormed none := by
  have trusted : Item.CompileWellFormed watchedDeployment.customs := by
    intro compile mem parent compiled compiles
    obtain rfl := List.mem_singleton.mp mem
    have builtIn : (Item.waitFor "probe" Deployment.isReady).isBuiltIn = true := rfl
    exact Item.wellFormed_of_isBuiltIn builtIn compiles
  obtain ⟨compiled, compiles⟩ : ∃ compiled, watchedDeployment.compile none = .ok compiled :=
    ⟨_, rfl⟩
  exact ⟨compiled, compiles, trusted, (wellFormed_of_compile compiles).1 trusted⟩

end ResumableFlow
