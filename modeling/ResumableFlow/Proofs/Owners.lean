import Mathlib.Data.List.Infix
import ResumableFlow.Proofs.ErasedRuns

/-!
# Edges and the items they stem from

Each exclusive edge that a tree compiles to stems from one item and lies under the retries around
that item (`Item.emits_of_compile`). The recorded tree is a tree, too, with recorded handlers around
its addresses.
-/

namespace ResumableFlow

variable {σ ε : Type}

/-! ## Retries around an address -/

/-- A retry of a tree, with its address. -/
structure RetryAt (σ ε : Type) extends Guard σ ε where
  place : List Nat

namespace Item

/-- The scope around what is in an item. A retry has no scope of its own. -/
def enclosing (parent : Option Scope) : Item σ ε → Option Scope
  | retry _ _ => parent
  | item => some (.nest parent item.name)

/-- The item as a retry. It leads back to the start of the item in it. -/
def asRetry (parent : Option Scope) (here : List Nat) : Item σ ε → List (RetryAt σ ε)
  | retry body handler => [⟨⟨(Scope.nest parent body.name).start, handler⟩, here⟩]
  | _ => []

/-- The retries, the item among them, that the address lies in, from the innermost one outwards. The
item stands below `parent` and at the address `here`. -/
def retriesAround (parent : Option Scope) (here : List Nat) (item : Item σ ε) :
    List Nat → List (RetryAt σ ε)
  | [] => []
  | position :: address =>
    match item.child? position with
    | none => []
    | some child =>
      child.retriesAround (item.enclosing parent) (here ++ [position]) address ++
        item.asRetry parent here

theorem retriesAround_cons {parent : Option Scope} {item child : Item σ ε} {position : Nat}
    (there : item.child? position = some child) (here address : List Nat) :
    item.retriesAround parent here (position :: address) =
      child.retriesAround (item.enclosing parent) (here ++ [position]) address ++
        item.asRetry parent here := by
  rw [retriesAround, there]

def handler? : Item σ ε → Option (Handler σ ε)
  | retry _ handler => some handler
  | _ => none

theorem map_asRetry (item : Item σ ε) (parent : Option Scope) (here : List Nat) :
    (item.asRetry parent here).map (fun retry => (retry.place, retry.handler)) =
      (item.handler?.map (here, ·)).toList := by
  cases item <;> rfl

theorem inits_dropLast_cons (position : Nat) (address : List Nat) :
    (position :: address).inits.dropLast = [] :: address.inits.dropLast.map (position :: ·) := by
  have nonempty : address.inits.map (position :: ·) ≠ [] := by
    cases address <;> simp
  rw [List.inits_cons, List.dropLast_cons_of_ne_nil nonempty, List.map_dropLast]

/-- They are the retries that stand on the way to the address, the last one first. -/
theorem retriesAround_eq_filterMap : ∀ (address : List Nat) {item : Item σ ε}
    (parent : Option Scope) (here : List Nat), (item.at? address).isSome = true →
    (item.retriesAround parent here address).map (fun retry => (retry.place, retry.handler)) =
      address.inits.dropLast.reverse.filterMap fun place =>
        ((item.at? place).bind handler?).map (here ++ place, ·)
  | [], _, _, _, _ => rfl
  | position :: address, item, parent, here, found => by
    rw [at?] at found
    rcases there : item.child? position with _ | child <;> rw [there] at found
    · cases found
    · have inChild := retriesAround_eq_filterMap address (item.enclosing parent)
        (here ++ [position]) found
      have step : ∀ place, item.at? (position :: place) = child.at? place := fun place => by
        rw [at?, there, Option.bind_some]
      rw [retriesAround_cons there, List.map_append, inChild, map_asRetry, inits_dropLast_cons,
        List.reverse_cons, List.filterMap_append, ← List.map_reverse, List.filterMap_map]
      simp only [Function.comp_def, step, List.append_assoc, List.singleton_append]
      rw [List.filterMap_cons, at?, Option.bind_some, List.append_nil, List.filterMap_nil]
      rcases item.handler? with _ | handler <;> rfl

/-! ## Edges and the items they stem from -/

/-- The item runs its function on the edge. -/
inductive Asks : Item σ ε → Transition σ ε → Prop
  | activity (name : String) (run : Callable σ ε Unit) (source : Event)
    (options : List Destination) (choose : Unit → List Event) :
    Asks (.activity name run) (.chosen source true options (run.map choose))
  | gate (name : String) (body : Item σ ε) (condition : Callable σ ε Bool) (source : Event)
    (options : List Destination) (choose : Bool → List Event) :
    Asks (.gate name body condition) (.chosen source true options (condition.map choose))
  | loopUntil (name : String) (body : Item σ ε) (condition : Callable σ ε Bool) (source : Event)
    (options : List Destination) (choose : Bool → List Event) :
    Asks (.loopUntil name body condition) (.chosen source true options (condition.map choose))
  | waitFor (name : String) (condition : Callable σ ε Bool) (source : Event)
    (options : List Destination) (choose : Bool → List Event) :
    Asks (.waitFor name condition) (.chosen source true options (condition.map choose))

/-- An item in the tree runs its function on the edge, under the retries around the item. -/
def Emits (item : Item σ ε) (parent : Option Scope) (transition : Transition σ ε) : Prop :=
  ∃ address owner bare, item.at? address = some owner ∧ owner.Asks bare ∧
    ∀ here, transition = bare.under ((item.retriesAround parent here address).map RetryAt.toGuard)

theorem Asks.emits {item : Item σ ε} {transition : Transition σ ε} (h : item.Asks transition)
    (parent : Option Scope) : item.Emits parent transition :=
  ⟨[], item, transition, rfl, h, fun _ => rfl⟩

section emits

variable {item child : Item σ ε} {parent : Option Scope} {transition : Transition σ ε}

theorem Emits.of_child (position : Nat) (there : item.child? position = some child)
    (plain : item.isRetry = false) (h : child.Emits (item.enclosing parent) transition) :
    item.Emits parent transition := by
  obtain ⟨address, owner, bare, found, asks, eq⟩ := h
  refine ⟨position :: address, owner, bare, ?_, asks, fun here => ?_⟩
  · rw [at?, there, Option.bind_some, found]
  · have none : item.asRetry parent here = [] := by
      cases item <;> first | rfl | cases plain
    rw [retriesAround_cons there, none, List.append_nil]
    exact eq _

theorem Emits.retry (handler : Handler σ ε) (h : child.Emits parent transition) :
    (Item.retry child handler).Emits parent
      (.guarded transition (Scope.nest parent child.name).start handler) := by
  obtain ⟨address, owner, bare, found, asks, eq⟩ := h
  refine ⟨0 :: address, owner, bare, found, asks, fun here => ?_⟩
  rw [retriesAround_cons rfl, List.map_append, asRetry, List.map_singleton,
    Transition.under_concat, enclosing, ← eq]

end emits

/-- The scope is that of the item, and so the event that a retry leads back to is the start of what
is in it. -/
theorem emitsCases : CompileCases (σ := σ) (ε := ε)
    (fun parent item compiled => item.isBuiltIn = true →
      compiled.scope = .nest parent item.name ∧ ∀ transition ∈ compiled.transitions,
        transition.isExclusive = true → item.Emits parent transition)
    (fun scope _ _ items transitions => areBuiltIn items = true → ∀ transition ∈ transitions,
      transition.isExclusive = true → ∃ (position : Nat) (child : Item σ ε),
        items[position]? = some child ∧ child.Emits (some scope) transition) where
  activity := by
    intro parent name run _ _
    refine ⟨rfl, fun transition mem _ => ?_⟩
    obtain rfl := List.mem_singleton.mp mem
    exact (Asks.activity name run _ _ _).emits parent
  steps := by
    intro parent name items transitions _ chain builtIn
    refine ⟨rfl, fun transition mem exclusive => ?_⟩
    obtain ⟨position, child, there, emits⟩ := chain builtIn transition mem exclusive
    exact .of_child position there rfl emits
  gate := by
    intro parent name body condition inner _ edges builtIn
    refine ⟨rfl, fun transition mem exclusive => ?_⟩
    rcases List.mem_cons.mp mem with rfl | mem
    · exact (Asks.gate name body condition _ _ _).emits parent
    rcases List.mem_cons.mp mem with rfl | mem
    · cases exclusive
    · exact .of_child 0 rfl rfl ((edges builtIn).2 transition mem exclusive)
  loopUntil := by
    intro parent name body condition inner _ edges builtIn
    refine ⟨rfl, fun transition mem exclusive => ?_⟩
    rcases List.mem_cons.mp mem with rfl | mem
    · cases exclusive
    rcases List.mem_cons.mp mem with rfl | mem
    · exact (Asks.loopUntil name body condition _ _ _).emits parent
    · exact .of_child 0 rfl rfl ((edges builtIn).2 transition mem exclusive)
  retry := by
    intro parent body handler inner edges builtIn
    obtain ⟨scope, edges⟩ := edges builtIn
    refine ⟨scope, fun transition mem exclusive => ?_⟩
    obtain ⟨wrapped, inBody, rfl⟩ := List.mem_map.mp mem
    rw [scope]
    exact (edges wrapped inBody exclusive).retry handler
  waitFor := by
    intro parent name condition _ _
    refine ⟨rfl, fun transition mem _ => ?_⟩
    obtain rfl := List.mem_singleton.mp mem
    exact (Asks.waitFor name condition _ _ _).emits parent
  custom := by
    intro parent name compile compiled _ builtIn
    cases builtIn
  nil := by
    intro scope taken last _ transition mem exclusive
    obtain rfl := List.mem_singleton.mp mem
    cases exclusive
  cons := by
    intro scope taken last item items child following edges _ chain builtIn transition mem exclusive
    rw [areBuiltIn, Bool.and_eq_true] at builtIn
    rcases List.mem_cons.mp mem with rfl | mem
    · cases exclusive
    rcases List.mem_append.mp mem with mem | mem
    · exact ⟨0, item, rfl, (edges builtIn.1).2 transition mem exclusive⟩
    · obtain ⟨position, found, there, emits⟩ := chain builtIn.2 transition mem exclusive
      exact ⟨position + 1, found, there, emits⟩

/-- Each exclusive edge stems from an item of the tree, and lies under the retries around it. -/
theorem emits_of_compile {item : Item σ ε} {parent : Option Scope} {compiled : Compiled σ ε}
    (builtIn : item.isBuiltIn = true) (compiles : item.compile parent = .ok compiled) :
    ∀ transition ∈ compiled.transitions, transition.isExclusive = true →
      item.Emits parent transition :=
  (emitsCases.induct item compiles builtIn).2

end Item

/-! ## Recorded trees -/

def RetryAt.recorded (retry : RetryAt σ ε) : RetryAt (Journaled (List Nat) σ ε) ε :=
  ⟨⟨retry.restart, retry.handler.recorded retry.place⟩, retry.place⟩

namespace Item

theorem name_recorded (item : Item σ ε) (here : List Nat) :
    (item.recorded here).name = item.name := by
  cases item with
  | retry body handler => exact body.name_recorded (here ++ [0])
  | _ => rfl

theorem enclosing_recorded (item : Item σ ε) (parent : Option Scope) (here : List Nat) :
    (item.recorded here).enclosing parent = item.enclosing parent := by
  cases item <;> rfl

theorem asRetry_recorded (item : Item σ ε) (parent : Option Scope) (here : List Nat) :
    (item.recorded here).asRetry parent here = (item.asRetry parent here).map RetryAt.recorded := by
  cases item with
  | retry body handler =>
    rw [recorded, asRetry, name_recorded]
    rfl
  | _ => rfl

theorem getElem?_recordedFrom (address : List Nat) : ∀ (items : List (Item σ ε))
    (start position : Nat), (recordedFrom address start items)[position]? =
      items[position]?.map (·.recorded (address ++ [start + position]))
  | [], _, _ => rfl
  | _ :: _, _, 0 => rfl
  | _ :: items, start, position + 1 => by
    rw [recordedFrom, List.getElem?_cons_succ, getElem?_recordedFrom address items,
      List.getElem?_cons_succ, Nat.add_right_comm, Nat.add_assoc]

theorem child?_recorded (item : Item σ ε) (here : List Nat) (position : Nat) :
    (item.recorded here).child? position =
      (item.child? position).map (·.recorded (here ++ [position])) := by
  cases item with
  | steps name items =>
    have found := getElem?_recordedFrom here items 0 position
    rw [Nat.zero_add] at found
    exact found
  | _ => cases position <;> rfl

theorem at?_recorded : ∀ (address : List Nat) (item : Item σ ε) (here : List Nat),
    (item.recorded here).at? address = (item.at? address).map (·.recorded (here ++ address))
  | [], item, here => by rw [at?, at?, Option.map_some, List.append_nil]
  | position :: address, item, here => by
    rw [at?, at?, child?_recorded]
    rcases item.child? position with _ | child
    · rfl
    · rw [Option.map_some, Option.bind_some, Option.bind_some, at?_recorded address,
        List.append_assoc, List.singleton_append]

/-- The retries around an address of the recorded tree have recorded handlers. -/
theorem retriesAround_recorded : ∀ (address : List Nat) (item : Item σ ε) (parent : Option Scope)
    (here : List Nat), (item.recorded here).retriesAround parent here address =
      (item.retriesAround parent here address).map RetryAt.recorded
  | [], _, _, _ => rfl
  | position :: address, item, parent, here => by
    have there := item.child?_recorded here position
    rcases found : item.child? position with _ | child <;> rw [found] at there
    · rw [retriesAround, retriesAround, found, there]
      rfl
    · rw [retriesAround_cons there, retriesAround_cons found, retriesAround_recorded address,
        enclosing_recorded, asRetry_recorded, List.map_append]

end Item

end ResumableFlow
