import ResumableFlow.Proofs.Driving
import ResumableFlow.Proofs.Outcomes

/-!
# Connectedness

Without the ways back of handlers, the rows of a compiled tree are still a connected graph: each
event that is left lies on a path from the start of the flow to its completion
(`Flow.connected_of_compile`).

The paths are those of one tree of the same shape, in which every activity succeeds and every
condition holds (`Item.agreeing`). So they are not only drawn in the graph. The calls of that tree
go along them, and from wherever they begin they complete the flow without a failure.
-/

namespace ResumableFlow

variable {σ ε : Type}

/-! ## Trees that agree -/

namespace Item

mutual

/-- The tree with functions that never fail: its activities do nothing and its conditions hold. -/
def agreeing : Item σ ε → Item σ ε
  | activity name _ => activity name (.constant (.ok ()))
  | steps name items => steps name (allAgreeing items)
  | gate name body _ => gate name body.agreeing (.constant (.ok true))
  | loopUntil name body _ => loopUntil name body.agreeing (.constant (.ok true))
  | retry body handler => retry body.agreeing handler
  | waitFor name _ => waitFor name (.constant (.ok true))
  | custom name compile => custom name compile

def allAgreeing : List (Item σ ε) → List (Item σ ε)
  | [] => []
  | item :: items => item.agreeing :: allAgreeing items

end

mutual

theorem sameShape_agreeing : ∀ (item : Item σ ε), item.isBuiltIn = true →
    item.SameShape item.agreeing
  | activity name _, _ => .activity name trivial
  | steps name items, builtIn => .steps name (sameShape_allAgreeing items builtIn)
  | gate name body _, builtIn => .gate name (sameShape_agreeing body builtIn) trivial
  | loopUntil name body _, builtIn => .loopUntil name (sameShape_agreeing body builtIn) trivial
  | retry body _, builtIn => .retry (sameShape_agreeing body builtIn) fun _ => trivial
  | waitFor name _, _ => .waitFor name trivial

theorem sameShape_allAgreeing : ∀ (items : List (Item σ ε)), areBuiltIn items = true →
    List.Forall₂ (Corresponds .shape) (allAgreeing items) items
  | [], _ => .nil
  | item :: items, builtIn => by
    rw [areBuiltIn, Bool.and_eq_true] at builtIn
    exact .cons (sameShape_agreeing item builtIn.1) (sameShape_allAgreeing items builtIn.2)

end

end Item

/-! ## Ways through a list -/

/-- One of the transitions leads from the first event to the second one on every context, and says
so without naming a retry. -/
def Onward (transitions : List (Transition σ ε)) (source target : Event) : Prop :=
  ∃ transition ∈ transitions, transition.source = source ∧
    (∃ destination ∈ transition.destinations,
      destination.reason ≠ "retry" ∧ destination.event = target) ∧
    ∀ context, transition.take context = (.ok [target], context)

/-- A way of any length. -/
abbrev Way (transitions : List (Transition σ ε)) : Event → Event → Prop :=
  Relation.ReflTransGen (Onward transitions)

namespace Onward

variable {transitions longer : List (Transition σ ε)} {source target : Event}

theorem fixed (mem : .fixed source target ∈ transitions) : Onward transitions source target :=
  ⟨_, mem, rfl, ⟨⟨target, "static"⟩, List.mem_cons_self, by simp, rfl⟩, fun _ => rfl⟩

theorem branch {options : List Destination} {whenFalse : Event} {reason : String}
    (mem : .branch source options (.constant (.ok true)) [target] [whenFalse] ∈ transitions)
    (listed : ⟨target, reason⟩ ∈ options) (other : reason ≠ "retry") :
    Onward transitions source target :=
  ⟨_, mem, rfl, ⟨_, listed, other, rfl⟩, fun _ => rfl⟩

theorem of_subset (h : Onward transitions source target) (sub : transitions ⊆ longer) :
    Onward longer source target := by
  obtain ⟨transition, mem, rest⟩ := h
  exact ⟨transition, sub mem, rest⟩

/-- What does not fail is not handled. -/
theorem guarded (restart : Event) (handler : Handler σ ε) (h : Onward transitions source target) :
    Onward (transitions.map fun transition => .guarded transition restart handler) source
      target := by
  obtain ⟨transition, mem, left, ⟨destination, listed, eq⟩, takes⟩ := h
  refine ⟨_, List.mem_map_of_mem mem, left, ⟨destination, List.mem_append_left _ listed, eq⟩,
    fun context => ?_⟩
  simp only [Transition.take, Callable.guard, takes context]

end Onward

theorem Way.lift {inner outer : List (Transition σ ε)} {a b : Event} (h : Way inner a b)
    (lifts : ∀ {source target}, Onward inner source target → Onward outer source target) :
    Way outer a b :=
  Relation.ReflTransGen.mono (fun _ _ => lifts) _ _ h

theorem Way.reaches {transitions : List (Transition σ ε)} {a b : Event}
    (h : Way transitions a b) (context : σ) :
    ∃ count, Reaches transitions count (a, context) (b, context) := by
  induction h with
  | refl => exact ⟨0, .refl _⟩
  | tail _ last ih =>
    obtain ⟨count, reaches⟩ := ih
    obtain ⟨transition, mem, left, _, takes⟩ := last
    exact ⟨count + 1, reaches.trans (.single mem left (takes context))⟩

theorem Way.leads {transitions : List (Transition σ ε)} {a b : Event} (h : Way transitions a b) :
    Relation.ReflTransGen
      (Leads (fun destination => destination.reason ≠ "retry") (transitions.map Transition.row))
      a b := by
  refine Relation.ReflTransGen.mono (fun source target onward => ?_) _ _ h
  obtain ⟨transition, mem, left, listed, _⟩ := onward
  exact ⟨transition.row, List.mem_map_of_mem mem, left, listed⟩

/-! ## Connected lists -/

/-- There is a way from `entry` to `exit`, and one through each event that is left. -/
structure Connects (transitions : List (Transition σ ε)) (entry exit : Event) : Prop where
  through : Way transitions entry exit
  before : ∀ event ∈ sourcesOf transitions, Way transitions entry event
  after : ∀ event ∈ sourcesOf transitions, Way transitions event exit

namespace Connects

variable {entry exit : Event}

theorem single {transition : Transition σ ε} (left : transition.source = entry)
    (onward : Onward [transition] entry exit) : Connects [transition] entry exit := by
  have only : ∀ event ∈ sourcesOf [transition], event = entry := by
    intro event mem
    rw [← left]
    exact List.mem_singleton.mp mem
  refine ⟨.single onward, fun event mem => ?_, fun event mem => ?_⟩ <;> rw [only event mem]
  exact .single onward

/-- One transition leads into a connected list, another one out of it. -/
theorem around {inner outer : List (Transition σ ε)} {first last : Event}
    (h : Connects inner first last) (sub : inner ⊆ outer) (into : Onward outer entry first)
    (out : Onward outer last exit)
    (sources : sourcesOf outer ⊆ entry :: last :: sourcesOf inner) : Connects outer entry exit := by
  have lift : ∀ {a b}, Way inner a b → Way outer a b := fun way =>
    way.lift fun onward => onward.of_subset sub
  have through : Way outer entry exit := (Relation.ReflTransGen.head into (lift h.through)).tail out
  refine ⟨through, fun event mem => ?_, fun event mem => ?_⟩
  · rcases List.mem_cons.mp (sources mem) with rfl | mem
    · exact .refl
    rcases List.mem_cons.mp mem with rfl | mem
    · exact .head into (lift h.through)
    · exact .head into (lift (h.before event mem))
  · rcases List.mem_cons.mp (sources mem) with rfl | mem
    · exact through
    rcases List.mem_cons.mp mem with rfl | mem
    · exact .single out
    · exact (lift (h.after event mem)).tail out

/-- A link leads into the first of two lists in a row. -/
theorem link {child following : List (Transition σ ε)} {first last : Event}
    (h : Connects child first last) (next : Connects following last exit) :
    Connects (.fixed entry first :: (child ++ following)) entry exit := by
  set whole := Transition.fixed entry first :: (child ++ following)
  have into : Onward whole entry first := .fixed List.mem_cons_self
  have liftChild : ∀ {a b}, Way child a b → Way whole a b := fun way =>
    way.lift fun onward => onward.of_subset (subset_link_left _ _ _)
  have liftFollowing : ∀ {a b}, Way following a b → Way whole a b := fun way =>
    way.lift fun onward => onward.of_subset (subset_link_right _ _ _)
  have split : ∀ event ∈ sourcesOf whole,
      event = entry ∨ event ∈ sourcesOf child ∨ event ∈ sourcesOf following := by
    intro event mem
    rwa [sourcesOf_cons, sourcesOf_append, List.mem_cons, List.mem_append] at mem
  have toLast : Way whole entry last := .head into (liftChild h.through)
  have through : Way whole entry exit := toLast.trans (liftFollowing next.through)
  refine ⟨through, fun event mem => ?_, fun event mem => ?_⟩
  · rcases split event mem with rfl | mem | mem
    · exact .refl
    · exact .head into (liftChild (h.before event mem))
    · exact toLast.trans (liftFollowing (next.before event mem))
  · rcases split event mem with rfl | mem | mem
    · exact through
    · exact (liftChild (h.after event mem)).trans (liftFollowing next.through)
    · exact liftFollowing (next.after event mem)

theorem retry {compiled : Compiled σ ε} (h : Connects compiled.transitions entry exit)
    (handler : Handler σ ε) : Connects (compiled.retry handler).transitions entry exit := by
  have lift : ∀ {a b}, Way compiled.transitions a b →
      Way (compiled.retry handler).transitions a b := fun way =>
    way.lift fun onward => onward.guarded _ handler
  refine ⟨lift h.through, ?_, ?_⟩ <;> rw [sourcesOf_retry]
  · exact fun event mem => lift (h.before event mem)
  · exact fun event mem => lift (h.after event mem)

end Connects

namespace Item

mutual

/-- A tree that agrees compiles to a list with a way through each event from start to completion. -/
theorem connects_agreeing : ∀ (item : Item σ ε) {parent : Option Scope} {compiled : Compiled σ ε},
    item.isBuiltIn = true → item.agreeing.compile parent = .ok compiled →
    Connects compiled.transitions compiled.scope.start compiled.scope.completed
  | activity name _, parent, _, _, compiles => by
    obtain ⟨_, rfl⟩ := compile_activity_eq_ok_iff.mp compiles
    exact .single rfl
      ⟨_, List.mem_cons_self, rfl, ⟨_, List.mem_cons_self, by simp, rfl⟩, fun _ => rfl⟩
  | waitFor name _, parent, _, _, compiles => by
    obtain ⟨_, rfl⟩ := compile_waitFor_eq_ok_iff.mp compiles
    exact .single rfl
      (.branch List.mem_cons_self (List.mem_cons_of_mem _ List.mem_cons_self) (by decide))
  | steps name items, parent, _, builtIn, compiles => by
    obtain ⟨_, transitions, compilesItems, rfl⟩ := compile_steps_eq_ok_iff.mp compiles
    exact connects_allAgreeing items builtIn compilesItems
  | gate name body _, parent, _, builtIn, compiles => by
    obtain ⟨_, inner, compilesBody, rfl⟩ := compile_gate_eq_ok_iff.mp compiles
    exact (connects_agreeing body builtIn compilesBody).around (inner.subset_gate _ _)
      (.branch List.mem_cons_self List.mem_cons_self (by decide))
      (.fixed (inner.leave_mem_gate _ _)) (List.Subset.refl _)
  | loopUntil name body _, parent, _, builtIn, compiles => by
    obtain ⟨_, inner, compilesBody, rfl⟩ := compile_loopUntil_eq_ok_iff.mp compiles
    exact (connects_agreeing body builtIn compilesBody).around (inner.subset_loopUntil _ _)
      (.fixed List.mem_cons_self)
      (.branch (inner.ask_mem_loopUntil _ _) (List.mem_cons_of_mem _ List.mem_cons_self)
        (by decide))
      (List.Subset.refl _)
  | retry body handler, parent, _, builtIn, compiles => by
    obtain ⟨inner, compilesBody, rfl⟩ := compile_retry_eq_ok_iff.mp compiles
    exact (connects_agreeing body builtIn compilesBody).retry handler

theorem connects_allAgreeing : ∀ (items : List (Item σ ε)) {scope : Scope} {taken : List String}
    {last : Event} {transitions : List (Transition σ ε)}, areBuiltIn items = true →
    compileSteps scope taken last (allAgreeing items) = .ok transitions →
    Connects transitions last scope.completed
  | [], _, _, _, _, _, compiles => by
    obtain rfl := pure_eq_ok_iff.mp compiles
    exact .single rfl (.fixed List.mem_cons_self)
  | item :: items, _, _, _, _, builtIn, compiles => by
    obtain ⟨child, compilesItem, _, following, compilesRest, rfl⟩ :=
      compileSteps_cons_eq_ok_iff.mp compiles
    rw [areBuiltIn, Bool.and_eq_true] at builtIn
    exact (connects_agreeing item builtIn.1 compilesItem).link
      (connects_allAgreeing items builtIn.2 compilesRest)

end

end Item

/-! ## Connected flows -/

namespace Flow

variable {flow : Flow σ ε}

/-- The edge relation of the rows without the ways back of handlers. -/
abbrev Forward (flow : Flow σ ε) : Event → Event → Prop :=
  Leads (fun destination => destination.reason ≠ "retry") flow.describe

/-- Enough calls come to the completion if moves do. -/
theorem Regular.progress_completed (h : flow.Regular) (policy : flow.config.onLimit = .yield)
    {event : Event} (mem : event ∈ sourcesOf flow.table.transitions) {context after : σ}
    {count : Nat}
    (reaches : Reaches flow.table.transitions count (event, context) (flow.completed, after)) :
    ∃ calls, flow.progress calls (.ofEvents [event]) context = (.completed, after) := by
  have follows : Follows flow.table.transitions flow.completed 0 (event, context)
      (.completed, after) := .ended reaches .completed
  obtain ⟨bound, agree⟩ := follows.agree h.nodup h.completed_not_mem nofun
  obtain ⟨result, followed, progressed⟩ := h.progress_follows policy bound (.ofEvents [event]) event
    context rfl (Or.inl mem) flow.isCompleted_singleton
  refine ⟨bound, ?_⟩
  rw [progressed, agree bound (Nat.le_refl _) result followed]
  rfl

/-- Every event that is left lies on a path from the start to the completion that names no retry.
The tree that agrees in everything goes on from each such event to the completion, and so do the
calls of its flow, if they hand back what they have reached at the limit. -/
theorem connected_of_compile {root : Item σ ε} {config : Config} (builtIn : root.isBuiltIn = true)
    (compiles : Flow.compile root config = .ok flow) :
    (∀ row ∈ flow.describe, Relation.ReflTransGen flow.Forward flow.start row.source ∧
      Relation.ReflTransGen flow.Forward row.source flow.completed) ∧
    ∃ agreeing, root.SameShape root.agreeing ∧ Flow.compile root.agreeing config = .ok agreeing ∧
      ∀ row ∈ flow.describe, ∀ context,
        (∃ count, Reaches agreeing.table.transitions count (row.source, context)
          (flow.completed, context)) ∧
        (config.onLimit = .yield → ∃ calls,
          agreeing.progress calls (.ofEvents [row.source]) context = (.completed, context)) := by
  obtain ⟨compiled, compilesRoot, rfl⟩ := compile_eq_ok_iff.mp compiles
  have same := Item.sameShape_agreeing root builtIn
  obtain ⟨compiled', compilesAgreeing, scope, rows⟩ := same.compile_rows builtIn compilesRoot
  have connects := Item.connects_agreeing root builtIn compilesAgreeing
  rw [scope] at connects
  have sources : sourcesOf compiled'.transitions = sourcesOf compiled.transitions := by
    have eq := congrArg (List.map Row.source) rows
    rwa [List.map_map, List.map_map] at eq
  have left : ∀ row ∈ compiled.transitions.map Transition.row,
      row.source ∈ sourcesOf compiled'.transitions := by
    intro row mem
    obtain ⟨transition, memTransition, rfl⟩ := List.mem_map.mp mem
    rw [sources]
    exact List.mem_map_of_mem memTransition
  refine ⟨fun row mem => ?_, ⟨compiled'.scope, .ofList compiled'.transitions, config⟩, same,
    compile_eq_ok_iff.mpr ⟨compiled', compilesAgreeing, rfl⟩, fun row mem context => ?_⟩
  · have before := Way.leads (connects.before _ (left row mem))
    have after := Way.leads (connects.after _ (left row mem))
    rw [rows] at before after
    exact ⟨before, after⟩
  · obtain ⟨count, reaches⟩ := Way.reaches (connects.after _ (left row mem)) context
    refine ⟨⟨count, reaches⟩, fun policy => ?_⟩
    have builtInAgreeing : root.agreeing.isBuiltIn = true := by
      rw [same.isBuiltIn_eq, builtIn]
    have regular := regular_of_compile builtInAgreeing
      (compile_eq_ok_iff.mpr ⟨compiled', compilesAgreeing, rfl⟩ :
        Flow.compile root.agreeing config = _)
    rw [← scope] at reaches
    exact regular.progress_completed policy (left row mem) reaches

/-- In the deployment, what a failing upload leads to can be left without a retry. -/
theorem connected_of_compile_deployment : ∃ flow agreeing,
    Deployment.flow {} = .ok flow ∧ Flow.compile Deployment.item.agreeing {} = .ok agreeing ∧
      Relation.ReflTransGen flow.Forward ⟨.start, "deploy"⟩ ⟨.start, "deploy/upload/put"⟩ ∧
      Relation.ReflTransGen flow.Forward ⟨.start, "deploy/upload/put"⟩ ⟨.completed, "deploy"⟩ ∧
      ∃ calls, agreeing.progress calls (.ofEvents [⟨.start, "deploy/upload/put"⟩]) {} =
        (.completed, {}) := by
  obtain ⟨flow, compiles⟩ : ∃ flow, Deployment.flow {} = .ok flow := ⟨_, rfl⟩
  have builtIn : Deployment.item.isBuiltIn = true := rfl
  obtain ⟨connected, agreeing, _, compilesAgreeing, leads⟩ := connected_of_compile builtIn compiles
  obtain ⟨row, mem, source⟩ :
      ∃ row ∈ flow.describe, row.source = ⟨.start, "deploy/upload/put"⟩ := by
    obtain rfl := Except.ok.inj compiles
    exact ⟨_, List.mem_iff_getElem?.mpr ⟨6, rfl⟩, rfl⟩
  obtain ⟨before, after⟩ := connected row mem
  have completes := (leads row mem {}).2 rfl
  rw [source] at before after completes
  obtain rfl := Except.ok.inj compiles
  exact ⟨_, agreeing, rfl, compilesAgreeing, before, after, completes⟩

end Flow

end ResumableFlow
