import ResumableFlow.Deploy.Flow
import ResumableFlow.Proofs.Demands
import ResumableFlow.Proofs.Exits
import ResumableFlow.Proofs.Rows

/-!
# Rows are exact

The destinations of an edge are written down beside the function that chooses among them, and each
handler around it adds one. In a tree of the library's own kinds nothing is missing there and
nothing is too much (`described_of_compile`): for each destination of an exclusive row there are
functions with which the edge leads to it, and no functions lead anywhere else. A silent edge leads
to the first destination of its row, whatever happens. What calls do to a state is therefore a path
in the graph of the rows.

That every destination is chosen by some functions goes by recursion on the tree
(`Item.mayAnswer_of_allows`). The invariant takes failures along, since a handler leads back only
after a failure within it.
-/

namespace ResumableFlow

variable {σ ε : Type}

/-! ## What an edge may answer -/

/-- An answer of an edge that its row allows: one of the destinations, or any failure. -/
def Row.Allows (row : Row) : Except ε (List Event) → Prop
  | .ok events => ∃ destination ∈ row.destinations, events = [destination.event]
  | .error _ => True

/-- An edge of the list that leaves the event answers the context so. -/
def Answers (transitions : List (Transition σ ε)) (source : Event) (context : σ)
    (answer : Except ε (List Event)) : Prop :=
  ∃ transition ∈ transitions, transition.source = source ∧ (transition.take context).1 = answer

theorem Answers.of_subset {transitions longer : List (Transition σ ε)} {source : Event}
    {context : σ} {answer : Except ε (List Event)} (h : Answers transitions source context answer)
    (sub : transitions ⊆ longer) : Answers longer source context answer := by
  obtain ⟨transition, mem, left, answered⟩ := h
  exact ⟨transition, sub mem, left, answered⟩

namespace Item

/-- With some functions in the tree, the edge that leaves the event answers the context so. -/
def MayAnswer (item : Item σ ε) (parent : Option Scope) (source : Event) (context : σ)
    (answer : Except ε (List Event)) : Prop :=
  ∃ other compiled, item.SameShape other ∧ other.compile parent = .ok compiled ∧
    Answers compiled.transitions source context answer

/-- The same for the rest of the sequence `scope`, from the event `last` on. -/
def StepsMayAnswer (items : List (Item σ ε)) (scope : Scope) (taken : List String) (last : Event)
    (source : Event) (context : σ) (answer : Except ε (List Event)) : Prop :=
  ∃ others transitions, List.Forall₂ (Corresponds .shape) others items ∧
    compileSteps scope taken last others = .ok transitions ∧
    Answers transitions source context answer

end Item

/-- The function that gives one answer and leaves the context as it is. -/
def Callable.constant {α : Type} (answer : Except ε α) : Callable σ ε α :=
  fun context => (answer, context)

/-- A condition can be made to answer what the row of its edge allows. -/
theorem Transition.exists_branch_answer {source whenTrue whenFalse : Event}
    {options : List Destination} {condition : Callable σ ε Bool} {answer : Except ε (List Event)}
    (allowed : (branch source options condition [whenTrue] [whenFalse]).row.Allows answer)
    (listed : ∀ destination ∈ options,
      destination.event = whenTrue ∨ destination.event = whenFalse) (context : σ) :
    ∃ chosen : Callable σ ε Bool,
      ((branch source options chosen [whenTrue] [whenFalse]).take context).1 = answer := by
  rcases answer with cause | events
  · exact ⟨.constant (.error cause), rfl⟩
  · obtain ⟨destination, mem, rfl⟩ := allowed
    rcases listed destination mem with eq | eq
    · exact ⟨.constant (.ok true), by rw [eq]; rfl⟩
    · exact ⟨.constant (.ok false), by rw [eq]; rfl⟩

namespace Item

variable {parent : Option Scope} {name : String} {body : Item σ ε} {source : Event} {context : σ}
  {answer : Except ε (List Event)}

/-! ## From a part to the whole -/

namespace MayAnswer

theorem gate (named : isName name = true) (condition : Callable σ ε Bool)
    (h : body.MayAnswer (some (.nest parent name)) source context answer) :
    (Item.gate name body condition).MayAnswer parent source context answer := by
  obtain ⟨other, inner, same, compiles, answers⟩ := h
  exact ⟨.gate name other condition, _, .gate name same trivial,
    compile_gate_eq_ok_iff.mpr ⟨named, inner, compiles, rfl⟩,
    answers.of_subset (inner.subset_gate _ condition)⟩

theorem loopUntil (named : isName name = true) (condition : Callable σ ε Bool)
    (h : body.MayAnswer (some (.nest parent name)) source context answer) :
    (Item.loopUntil name body condition).MayAnswer parent source context answer := by
  obtain ⟨other, inner, same, compiles, answers⟩ := h
  exact ⟨.loopUntil name other condition, _, .loopUntil name same trivial,
    compile_loopUntil_eq_ok_iff.mpr ⟨named, inner, compiles, rfl⟩,
    answers.of_subset (inner.subset_loopUntil _ condition)⟩

theorem steps {items : List (Item σ ε)} (named : isName name = true)
    (h : StepsMayAnswer items (.nest parent name) [] (Scope.nest parent name).start source context
      answer) :
    (Item.steps name items).MayAnswer parent source context answer := by
  obtain ⟨others, transitions, same, compiles, answers⟩ := h
  exact ⟨.steps name others, _, .steps name same,
    compile_steps_eq_ok_iff.mpr ⟨named, transitions, compiles, rfl⟩, answers⟩

/-- A handler is not asked when the edge leads to an event. -/
theorem retry_ok {events : List Event} (handler : Handler σ ε)
    (h : body.MayAnswer parent source context (.ok events)) :
    (Item.retry body handler).MayAnswer parent source context (.ok events) := by
  obtain ⟨other, inner, same, compiles, transition, mem, left, answered⟩ := h
  refine ⟨.retry other handler, _, .retry same fun _ => trivial,
    compile_retry_eq_ok_iff.mpr ⟨inner, compiles, rfl⟩, _, List.mem_map_of_mem mem, left, ?_⟩
  rcases taken : transition.take context with ⟨result, after⟩
  rw [taken] at answered
  cases answered
  simp only [Transition.take, Callable.guard, taken]

/-- When the edge fails, there is a handler for each way to go on. -/
theorem retry_error {cause : ε} {compiled : Compiled σ ε} (handler : Handler σ ε)
    (builtIn : body.isBuiltIn = true) (compilesBody : body.compile parent = .ok compiled)
    (h : body.MayAnswer parent source context (.error cause)) :
    (Item.retry body handler).MayAnswer parent source context (.error cause) ∧
      (Item.retry body handler).MayAnswer parent source context
        (.ok [compiled.scope.start]) := by
  obtain ⟨other, inner, same, compiles, transition, mem, left, answered⟩ := h
  have scope : inner.scope = compiled.scope := by
    obtain ⟨_, compiles', scope, _⟩ := same.compile_rows builtIn compilesBody
    rw [Except.ok.inj (compiles.symm.trans compiles'), scope]
  rcases taken : transition.take context with ⟨result, after⟩
  rw [taken] at answered
  cases answered
  constructor
  · refine ⟨.retry other fun _ => .constant (.ok false), _, .retry same fun _ => trivial,
      compile_retry_eq_ok_iff.mpr ⟨inner, compiles, rfl⟩, _, List.mem_map_of_mem mem, left, ?_⟩
    simp only [Transition.take, Callable.guard, taken, Callable.constant]
  · refine ⟨.retry other fun _ => .constant (.ok true), _, .retry same fun _ => trivial,
      compile_retry_eq_ok_iff.mpr ⟨inner, compiles, rfl⟩, _, List.mem_map_of_mem mem, left, ?_⟩
    simp only [Transition.take, Callable.guard, taken, Callable.constant, scope]

end MayAnswer

namespace StepsMayAnswer

variable {item : Item σ ε} {items : List (Item σ ε)} {scope : Scope} {taken : List String}
  {last : Event} {child : Compiled σ ε} {following : List (Transition σ ε)}

theorem head (builtIn : item.isBuiltIn = true) (builtInRest : areBuiltIn items = true)
    (compiles : item.compile (some scope) = .ok child) (fresh : child.scope.name ∉ taken)
    (compilesRest : compileSteps scope (child.scope.name :: taken) child.scope.completed items =
      .ok following)
    (h : item.MayAnswer (some scope) source context answer) :
    StepsMayAnswer (item :: items) scope taken last source context answer := by
  obtain ⟨other, inner, same, compilesOther, answers⟩ := h
  have scopes : inner.scope = child.scope := by
    obtain ⟨_, compiles', eq, _⟩ := same.compile_rows builtIn compiles
    rw [Except.ok.inj (compilesOther.symm.trans compiles'), eq]
  rw [← scopes] at fresh compilesRest
  exact ⟨other :: items, _, .cons same (SameShape.refl_all items builtInRest),
    compileSteps_cons_eq_ok_iff.mpr ⟨inner, compilesOther, fresh, following, compilesRest, rfl⟩,
    answers.of_subset (subset_link_left _ _ following)⟩

theorem tail (builtIn : item.isBuiltIn = true)
    (compiles : item.compile (some scope) = .ok child) (fresh : child.scope.name ∉ taken)
    (h : StepsMayAnswer items scope (child.scope.name :: taken) child.scope.completed source
      context answer) :
    StepsMayAnswer (item :: items) scope taken last source context answer := by
  obtain ⟨others, transitions, same, compilesOthers, answers⟩ := h
  exact ⟨item :: others, _, .cons (SameShape.refl item builtIn) same,
    compileSteps_cons_eq_ok_iff.mpr ⟨child, compiles, fresh, transitions, compilesOthers, rfl⟩,
    answers.of_subset (subset_link_right _ child.transitions transitions)⟩

end StepsMayAnswer

/-! ## All that rows allow -/

mutual

/-- What the row of an exclusive edge allows, the edge answers with some functions in the tree. -/
theorem mayAnswer_of_allows [Nonempty ε] : ∀ (item : Item σ ε) {parent : Option Scope}
    {compiled : Compiled σ ε}, item.isBuiltIn = true → item.compile parent = .ok compiled →
    ∀ transition ∈ compiled.transitions, transition.isExclusive = true → ∀ context answer,
      transition.row.Allows answer → item.MayAnswer parent transition.source context answer
  | activity name run, parent, _, _, compiles => by
    obtain ⟨named, rfl⟩ := compile_activity_eq_ok_iff.mp compiles
    intro transition mem _ context answer allowed
    obtain rfl := List.mem_singleton.mp mem
    have may : ∀ result : Except ε Unit, (Item.activity name run).MayAnswer parent
        (Scope.nest parent name).start context
        (result.map fun _ => [(Scope.nest parent name).completed]) := by
      intro result
      refine ⟨.activity name (.constant result), _, .activity name trivial,
        compile_activity_eq_ok_iff.mpr ⟨named, rfl⟩, _, List.mem_cons_self, rfl, ?_⟩
      rcases result with cause | _ <;> rfl
    rcases answer with cause | events
    · exact may (.error cause)
    · obtain ⟨destination, listed, rfl⟩ := allowed
      obtain rfl := List.mem_singleton.mp listed
      exact may (.ok ())
  | waitFor name condition, parent, _, _, compiles => by
    obtain ⟨named, rfl⟩ := compile_waitFor_eq_ok_iff.mp compiles
    intro transition mem _ context answer allowed
    obtain rfl := List.mem_singleton.mp mem
    obtain ⟨chosen, answered⟩ := Transition.exists_branch_answer allowed (by simp) context
    exact ⟨.waitFor name chosen, _, .waitFor name trivial,
      compile_waitFor_eq_ok_iff.mpr ⟨named, rfl⟩, _, List.mem_cons_self, rfl, answered⟩
  | steps name items, parent, _, builtIn, compiles => by
    obtain ⟨named, transitions, compilesItems, rfl⟩ := compile_steps_eq_ok_iff.mp compiles
    intro transition mem exclusive context answer allowed
    exact .steps named
      (stepsMayAnswer_of_allows items builtIn compilesItems transition mem exclusive context answer
        allowed)
  | gate name body condition, parent, _, builtIn, compiles => by
    obtain ⟨named, inner, compilesBody, rfl⟩ := compile_gate_eq_ok_iff.mp compiles
    intro transition mem exclusive context answer allowed
    rcases List.mem_cons.mp mem with rfl | mem
    · obtain ⟨chosen, answered⟩ := Transition.exists_branch_answer allowed (by simp) context
      exact ⟨.gate name body chosen, _, .gate name (SameShape.refl body builtIn) trivial,
        compile_gate_eq_ok_iff.mpr ⟨named, inner, compilesBody, rfl⟩, _, List.mem_cons_self, rfl,
        answered⟩
    rcases List.mem_cons.mp mem with rfl | mem
    · cases exclusive
    · exact .gate named condition
        (mayAnswer_of_allows body builtIn compilesBody transition mem exclusive context answer
          allowed)
  | loopUntil name body condition, parent, _, builtIn, compiles => by
    obtain ⟨named, inner, compilesBody, rfl⟩ := compile_loopUntil_eq_ok_iff.mp compiles
    intro transition mem exclusive context answer allowed
    rcases List.mem_cons.mp mem with rfl | mem
    · cases exclusive
    rcases List.mem_cons.mp mem with rfl | mem
    · obtain ⟨chosen, answered⟩ := Transition.exists_branch_answer allowed (by simp) context
      exact ⟨.loopUntil name body chosen, _, .loopUntil name (SameShape.refl body builtIn) trivial,
        compile_loopUntil_eq_ok_iff.mpr ⟨named, inner, compilesBody, rfl⟩, _,
        inner.ask_mem_loopUntil _ chosen, rfl, answered⟩
    · exact .loopUntil named condition
        (mayAnswer_of_allows body builtIn compilesBody transition mem exclusive context answer
          allowed)
  | retry body handler, parent, _, builtIn, compiles => by
    obtain ⟨inner, compilesBody, rfl⟩ := compile_retry_eq_ok_iff.mp compiles
    intro transition mem exclusive context answer allowed
    obtain ⟨wrapped, memInner, rfl⟩ := List.mem_map.mp mem
    have builtInBody : body.isBuiltIn = true := builtIn
    have inBody := mayAnswer_of_allows body builtIn compilesBody wrapped memInner exclusive context
    rcases answer with cause | events
    · exact (MayAnswer.retry_error handler builtInBody compilesBody
        (inBody (.error cause) trivial)).1
    · obtain ⟨destination, listed, rfl⟩ := allowed
      rcases List.mem_append.mp listed with listed | back
      · exact .retry_ok handler (inBody _ ⟨destination, listed, rfl⟩)
      · -- The way back is taken when the edge fails in some way.
        obtain rfl := List.mem_singleton.mp back
        obtain ⟨cause⟩ := ‹Nonempty ε›
        exact (MayAnswer.retry_error handler builtInBody compilesBody
          (inBody (.error cause) trivial)).2

theorem stepsMayAnswer_of_allows [Nonempty ε] : ∀ (items : List (Item σ ε)) {scope : Scope}
    {taken : List String} {last : Event} {transitions : List (Transition σ ε)},
    areBuiltIn items = true → compileSteps scope taken last items = .ok transitions →
    ∀ transition ∈ transitions, transition.isExclusive = true → ∀ context answer,
      transition.row.Allows answer →
      StepsMayAnswer items scope taken last transition.source context answer
  | [], _, _, _, _, _, compiles => by
    obtain rfl := pure_eq_ok_iff.mp compiles
    intro transition mem exclusive
    obtain rfl := List.mem_singleton.mp mem
    cases exclusive
  | item :: items, _, _, _, _, builtIn, compiles => by
    obtain ⟨child, compilesItem, fresh, following, compilesRest, rfl⟩ :=
      compileSteps_cons_eq_ok_iff.mp compiles
    rw [areBuiltIn, Bool.and_eq_true] at builtIn
    intro transition mem exclusive context answer allowed
    rcases List.mem_cons.mp mem with rfl | mem
    · cases exclusive
    rcases List.mem_append.mp mem with mem | mem
    · exact .head builtIn.1 builtIn.2 compilesItem fresh compilesRest
        (mayAnswer_of_allows item builtIn.1 compilesItem transition mem exclusive context answer
          allowed)
    · exact .tail builtIn.1 compilesItem fresh
        (stepsMayAnswer_of_allows items builtIn.2 compilesRest transition mem exclusive context
          answer allowed)

end

end Item

/-! ## Rows and edges -/

theorem Transition.destinations_of_target? {transition : Transition σ ε} {target : Event}
    (h : transition.target? = some target) :
    ∃ first rest, transition.destinations = first :: rest ∧ first.event = target := by
  induction transition with
  | fixed source fixedTarget => exact ⟨_, [], rfl, Option.some.inj h⟩
  | chosen source exclusive options choose => cases h
  | guarded inner restart handler ih =>
    obtain ⟨first, rest, listed, eq⟩ := ih h
    refine ⟨first, rest ++ [⟨restart, "retry"⟩], ?_, eq⟩
    rw [destinations, listed, List.cons_append]

/-- The row tells all that the edge does. Trees are told apart here by their functions alone, and an
edge by the event that it leaves. -/
structure Row.Describes (root : Item σ ε) (row : Row) (transition : Transition σ ε) : Prop where
  own : transition.row = row
  /-- An exclusive edge answers, with some functions in the tree, just what the row allows. -/
  exclusive : row.exclusive = true → ∀ context answer,
    root.MayAnswer none row.source context answer ↔ row.Allows answer
  /-- A silent edge leads to the first destination on every context, and invokes nothing. -/
  silent : row.exclusive = false → ∃ first rest, row.destinations = first :: rest ∧
    ∀ context, transition.take context = (.ok [first.event], context) ∧
      ∀ journal, (transition.recorded Prod.mk).take (context, journal) =
        (.ok [first.event], (context, journal))

namespace Item

variable {root : Item σ ε} {compiled : Compiled σ ε}

/-- Whatever the functions in the tree do, an edge answers only what its row allows. -/
theorem MayAnswer.allowed (builtIn : root.isBuiltIn = true)
    (compiles : root.compile none = .ok compiled) {transition : Transition σ ε}
    (mem : transition ∈ compiled.transitions) {context : σ} {answer : Except ε (List Event)}
    (h : root.MayAnswer none transition.source context answer) : transition.row.Allows answer := by
  obtain ⟨other, inner, same, compilesOther, edge, memEdge, left, answered⟩ := h
  obtain ⟨_, compiles', _, rows⟩ := same.compile_rows builtIn compiles
  obtain rfl := Except.ok.inj (compilesOther.symm.trans compiles')
  have builtInOther : other.isBuiltIn = true := by
    rw [same.isBuiltIn_eq, builtIn]
  -- The edge has the row of the transition, for no other one leaves the event.
  have row : edge.row = transition.row := by
    have listed : edge.row ∈ inner.transitions.map Transition.row := List.mem_map_of_mem memEdge
    rw [rows] at listed
    obtain ⟨own, memOwn, eq⟩ := List.mem_map.mp listed
    have source : own.source = transition.source := (congrArg Row.source eq).trans left
    have nodup := (wellFormed_of_isBuiltIn builtIn compiles).nodup
    rw [← eq, eq_of_source_eq nodup memOwn mem source]
  rcases answer with cause | events
  · trivial
  · rcases taken : edge.take context with ⟨result, after⟩
    rw [taken] at answered
    obtain rfl : result = .ok events := answered
    obtain ⟨target, listed, rfl⟩ :=
      (builtIn_of_compile builtInOther compilesOther edge memEdge).take_ok taken
    obtain ⟨destination, memDestination, rfl⟩ := List.mem_map.mp listed
    rw [← row]
    exact ⟨destination, memDestination, rfl⟩

theorem row_describes [Nonempty ε] (builtIn : root.isBuiltIn = true)
    (compiles : root.compile none = .ok compiled) {transition : Transition σ ε}
    (mem : transition ∈ compiled.transitions) : transition.row.Describes root transition where
  own := rfl
  exclusive := by
    intro exclusive context answer
    constructor
    · exact fun may => may.allowed builtIn compiles mem
    · exact mayAnswer_of_allows root builtIn compiles transition mem exclusive context answer
  silent := by
    intro silent
    obtain ⟨target, fixed, _⟩ :=
      (builtIn_of_compile builtIn compiles transition mem).target_of_silent silent
    obtain ⟨first, rest, listed, rfl⟩ := Transition.destinations_of_target? fixed
    refine ⟨first, rest, listed, fun context => ?_⟩
    have fixedRecorded : (transition.recorded Prod.mk).target? = some first.event := by
      rw [Transition.target?_recorded, fixed]
    exact ⟨Transition.take_of_target? fixed context,
      fun journal => Transition.take_of_target? fixedRecorded (context, journal)⟩

end Item

/-! ## Paths of calls -/

namespace Flow

variable {flow : Flow σ ε}

/-- The event that a call goes on from: the first one of the state that is the source of a row, or
the start of the flow if the state is empty. -/
def departure? (flow : Flow σ ε) (state : State) : Option Event :=
  if state.isEmpty then some flow.start
  else state.events.findSome? fun id =>
    (flow.describe.find? fun row => row.source.id = id).map Row.source

/-- The edge relation of the rows. -/
abbrev Edge (flow : Flow σ ε) : Event → Event → Prop := Leads (fun _ => True) flow.describe

theorem edge_of_listed {transition : Transition σ ε} (mem : transition ∈ flow.table.transitions)
    {target : Event} (listed : target ∈ transition.destinations.map Destination.event) :
    flow.Edge transition.source target := by
  obtain ⟨destination, memDestination, rfl⟩ := List.mem_map.mp listed
  exact ⟨_, List.mem_map_of_mem mem, rfl, destination, memDestination, trivial, rfl⟩

theorem Regular.departure?_eq (h : flow.Regular) (state : State) :
    flow.departure? state =
      (flow.table.lookup (flow.entry state)).map Transition.source := by
  obtain ⟨events⟩ := state
  rcases events with _ | ⟨id, rest⟩
  · obtain ⟨transition, mem, source⟩ := mem_sourcesOf.mp h.start_mem
    have found := h.lookup_source mem
    rw [source] at found
    show some flow.start = (flow.table.lookup (.ofEvents [flow.start])).map _
    rw [found, Option.map_some, source]
  · have found : ∀ id, (flow.describe.find? fun row => row.source.id = id).map Row.source =
        (flow.table.get? id).map Transition.source := by
      intro id
      rw [h.table, Table.get?_ofList, describe, Table.rows, List.find?_map, Option.map_map]
      rfl
    simp only [departure?, State.isEmpty, List.isEmpty_cons, Bool.false_eq_true, if_false, found]
    rw [flow.entry_of_ne_empty (by simp [State.empty]), Table.lookup, List.map_findSome?]
    rfl

/-- Edges lead from where a call goes on to a single event. -/
def Path (flow : Flow σ ε) (frontier next : State) : Prop :=
  ∃ transition target, flow.table.lookup frontier = some transition ∧
    next = .ofEvents [target] ∧ Relation.TransGen flow.Edge transition.source target

/-- A walk that comes to a good end has followed edges, unless it has not moved. -/
theorem Regular.walk_path (h : flow.Regular) (left : Nat) : ∀ (seen : List State)
    (frontier : State) (context : σ) (next : State),
    (flow.walk left seen frontier context).1.answer flow.config = .ok next →
    flow.Path frontier next ∨
      next = frontier ∧ (left = 0 ∨ frontier = .ofEvents [flow.completed]) := by
  induction left with
  | zero =>
    intro seen frontier context next answered
    refine Or.inr ⟨?_, Or.inl rfl⟩
    rw [walk] at answered
    by_cases done : flow.isCompleted frontier = true
    · rw [if_pos done] at answered
      exact (Except.ok.inj answered).symm
    · rw [if_neg done] at answered
      rcases Ending.answer_eq_ok answered with eq | eq | eq <;> cases eq
      rfl
  | succ left ih =>
    intro seen frontier context next answered
    have spec := h.step_spec frontier context
    generalize stepped : flow.step frontier context = taken at spec
    cases spec with
    | completed done =>
      rw [walk_ends stepped] at answered
      exact Or.inr ⟨(Except.ok.inj answered).symm, Or.inr done⟩
    | unhandled _ _ =>
      rw [walk_ends stepped] at answered
      cases answered
    | failed _ _ _ =>
      rw [walk_ends stepped] at answered
      cases answered
    | @exclusive transition target _ _ found _ took _ =>
      rw [walk_ends stepped] at answered
      have mem := (h.mem_of_lookup found).1
      obtain ⟨_, listed, eq⟩ := (h.builtIn transition mem).take_ok took
      obtain rfl := List.head_eq_of_cons_eq eq
      exact Or.inl ⟨transition, target, found, (Except.ok.inj answered).symm,
        .single (edge_of_listed mem listed)⟩
    | @silent transition target _ found fixed _ =>
      have mem := (h.mem_of_lookup found).1
      have edge := edge_of_listed mem (Transition.mem_destinations_of_target? fixed)
      by_cases repeated : State.ofEvents [target] ∈ seen
      · rw [walk_repeats stepped repeated] at answered
        cases answered
      · rw [walk_passes stepped repeated] at answered
        rcases ih _ _ _ _ answered with ⟨following, last, foundNext, eq, path⟩ | ⟨eq, _⟩
        · rw [(h.source_of_lookup foundNext).2] at path
          exact Or.inl ⟨transition, last, found, eq, .head edge path⟩
        · exact Or.inl ⟨transition, target, found, eq, .single edge⟩

theorem Regular.apply_path (h : flow.Regular) {state next : State} {context : σ}
    (answered : (flow.apply state context).1 = .ok next) (moved : next ≠ state) :
    ∃ source target, flow.departure? state = some source ∧ next = .ofEvents [target] ∧
      Relation.TransGen flow.Edge source target := by
  rw [apply_fst] at answered
  rcases h.walk_path _ _ _ _ _ answered with
    ⟨transition, target, found, eq, path⟩ | ⟨same, unbounded | done⟩
  · refine ⟨transition.source, target, ?_, eq, path⟩
    rw [h.departure?_eq, found, Option.map_some]
  · exact absurd unbounded flow.config.bound_pos.ne'
  · by_cases started : state = .empty
    · rw [started, entry_empty, State.ofEvents_singleton_inj] at done
      exact absurd done (Scope.start_ne_completed _ _)
    · rw [flow.entry_of_ne_empty started] at same
      exact absurd same moved

/-- The description of a tree of the library's own kinds is exact: row by row it tells what the
edges can do, and a call that changes the state follows a path of its edges. -/
theorem described_of_compile [Nonempty ε] {root : Item σ ε} {config : Config}
    (builtIn : root.isBuiltIn = true) (compiles : Flow.compile root config = .ok flow) :
    List.Forall₂ (Row.Describes root) flow.describe flow.table.transitions ∧
      ∀ state context next, (flow.apply state context).1 = .ok next → next ≠ state →
        ∃ source target, flow.departure? state = some source ∧ next = .ofEvents [target] ∧
          Relation.TransGen flow.Edge source target := by
  refine ⟨?_, fun state context next => (regular_of_compile builtIn compiles).apply_path⟩
  obtain ⟨compiled, compilesRoot, rfl⟩ := compile_eq_ok_iff.mp compiles
  rw [describe, Table.rows, List.forall₂_map_left_iff, List.forall₂_same]
  exact fun transition mem => Item.row_describes builtIn compilesRoot mem

/-- The upload can fail and come back to its start, as its row says,
although no upload fails here. -/
theorem described_of_compile_uploading : ∃ flow : Flow Deployment String,
    Flow.compile (uploading fun data => (.ok (), data)) = .ok flow ∧
      (uploading fun data => (.ok (), data)).MayAnswer none ⟨.start, "upload/put"⟩ {}
        (.ok [⟨.start, "upload"⟩]) := by
  obtain ⟨flow, compiles⟩ : ∃ flow : Flow Deployment String,
      Flow.compile (uploading fun data => (.ok (), data)) = .ok flow := ⟨_, rfl⟩
  have builtIn : (uploading fun data => (.ok (), data)).isBuiltIn = true := rfl
  refine ⟨flow, compiles, ?_⟩
  obtain ⟨described, _⟩ := described_of_compile builtIn compiles
  obtain rfl := Except.ok.inj compiles
  obtain _ | ⟨_, _ | ⟨put, _⟩⟩ := described
  exact (put.exclusive rfl {} _).mpr
    ⟨⟨⟨.start, "upload"⟩, "retry"⟩, List.mem_append_right _ List.mem_cons_self, rfl⟩

end Flow

end ResumableFlow
