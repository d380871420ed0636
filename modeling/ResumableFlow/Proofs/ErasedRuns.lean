import ResumableFlow.Deploy.Flow
import ResumableFlow.Proofs.Erasure
import ResumableFlow.Proofs.Invariants
import ResumableFlow.Proofs.RecordedTrees

/-!
# What runs without retries

The recorded tree without its retries notes what the erased tree invokes, under the addresses of
the full tree. Where a call of the erased tree does not fail, the recorded trees with and without
retries make the same journal, and no handler runs but those that items of the caller bring along
(`runs_as_erased`).
-/

namespace ResumableFlow

variable {σ' σ ε : Type}

namespace Item

/-! ## Addresses -/

/-- The item at a position within the item. -/
def child? : Item σ ε → Nat → Option (Item σ ε)
  | steps _ items, position => items[position]?
  | gate _ body _, 0 => some body
  | loopUntil _ body _, 0 => some body
  | retry body _, 0 => some body
  | _, _ => none

/-- The item at an address in the tree. -/
def at? (item : Item σ ε) : List Nat → Option (Item σ ε)
  | [] => some item
  | position :: address => (item.child? position).bind (·.at? address)

def isRetry : Item σ ε → Bool
  | retry _ _ => true
  | _ => false

def isCustom : Item σ ε → Bool
  | custom _ _ => true
  | _ => false

theorem at?_concat (position : Nat) : ∀ (address : List Nat) (item : Item σ ε),
    item.at? (address ++ [position]) = (item.at? address).bind (·.child? position)
  | [], item => by
    rw [List.nil_append, at?, at?, Option.bind_some]
    rcases item.child? position with _ | child <;> rfl
  | first :: address, item => by
    rw [List.cons_append, at?, at?]
    rcases item.child? first with _ | child
    · rfl
    · exact at?_concat position address child

/-- No retry has made the run: it stands at an item that is none, and it is of a handler only within
an item of the caller. -/
def Unretried (root : Item σ ε) (entry : Invocation (List Nat) σ ε) : Prop :=
  ∃ item, root.at? entry.place = some item ∧ item.isRetry = false ∧
    (entry.handled = none ∨ item.isCustom = true)

/-! ## Erasing trees that correspond -/

mutual

theorem Corresponds.erased {C : Correspondence σ' σ ε} : ∀ {item' : Item σ' ε} {item : Item σ ε},
    item'.Corresponds C item → item'.erased.Corresponds C item.erased
  | _, .activity _ _, .activity name related => .activity name related
  | _, .steps _ _, .steps name related => .steps name (correspond_erased related)
  | _, .gate _ _ _, .gate name inner related => .gate name inner.erased related
  | _, .loopUntil _ _ _, .loopUntil name inner related => .loopUntil name inner.erased related
  | _, .retry _ _, .retry inner _ => inner.erased
  | _, .waitFor _ _, .waitFor name related => .waitFor name related
  | _, .custom _ _, .custom name related => .custom name related

theorem Corresponds.correspond_erased {C : Correspondence σ' σ ε} :
    ∀ {items' : List (Item σ' ε)} {items : List (Item σ ε)},
    List.Forall₂ (Corresponds C) items' items →
    List.Forall₂ (Corresponds C) (erasedAll items') (erasedAll items)
  | _, [], .nil => .nil
  | _, _ :: _, .cons head rest => .cons head.erased (correspond_erased rest)

end

/-! ## What an erased recording notes -/

def UnretriedJournal (root : Item σ ε) (state : Journaled (List Nat) σ ε) : Prop :=
  ∀ entry ∈ state.2, root.Unretried entry

variable {root item : Item σ ε} {address : List Nat}

theorem keeps_recorded (here : root.at? address = some item) (plain : item.isRetry = false)
    {handled : Option ε} (allowed : handled = none ∨ item.isCustom = true) {α : Type}
    (run : Callable σ ε α) : Keeps root.UnretriedJournal (run.recorded address handled) := by
  rintro ⟨context, journal⟩ holds entry mem
  rcases List.mem_append.mp mem with earlier | new
  · exact holds entry earlier
  · rw [List.mem_singleton.mp new]
    exact ⟨item, here, plain, allowed⟩

theorem keeps_recorded_take {name : String}
    {compile : Option Scope → Except (FlowError ε) (Compiled σ ε)}
    (here : root.at? address = some (.custom name compile)) (transition : Transition σ ε) :
    Keeps root.UnretriedJournal (transition.recorded fun _ _ => address).take := by
  induction transition with
  | fixed source target => exact .pure _
  | chosen source exclusive options choose => exact keeps_recorded here rfl (Or.inl rfl) choose
  | guarded inner restart handler ih =>
    exact ih.guard (fun cause => keeps_recorded here rfl (Or.inr rfl) (handler cause)) _

mutual

/-- The functions of a recorded tree without its retries note only such runs. -/
theorem erased_recorded_keeps (root : Item σ ε) : ∀ (item : Item σ ε) (address : List Nat),
    root.at? address = some item →
    (item.recorded address).erased.Corresponds (.keeps root.UnretriedJournal)
      (item.recorded address).erased
  | activity name run, address, here =>
    .activity name ⟨rfl, keeps_recorded here rfl (Or.inl rfl) run⟩
  | steps name items, address, here => by
    refine .steps name (erasedAll_recorded_keep root items address 0 fun position item found => ?_)
    rw [at?_concat, here, Nat.zero_add]
    exact found
  | gate name body condition, address, here =>
    .gate name (erased_recorded_keeps root body _ (by rw [at?_concat, here]; rfl))
      ⟨rfl, keeps_recorded here rfl (Or.inl rfl) condition⟩
  | loopUntil name body condition, address, here =>
    .loopUntil name (erased_recorded_keeps root body _ (by rw [at?_concat, here]; rfl))
      ⟨rfl, keeps_recorded here rfl (Or.inl rfl) condition⟩
  | retry body handler, address, here =>
    erased_recorded_keeps root body _ (by rw [at?_concat, here]; rfl)
  | waitFor name condition, address, here =>
    .waitFor name ⟨rfl, keeps_recorded here rfl (Or.inl rfl) condition⟩
  | custom name compile, address, here => by
    refine .custom name fun parent compiled compiles => ⟨compiled, compiles, rfl, ?_⟩
    rcases eq : compile parent with error | inner <;> rw [eq] at compiles <;> cases compiles
    rw [List.forall₂_same]
    intro transition mem
    obtain ⟨plain, _, rfl⟩ := List.mem_map.mp mem
    exact ⟨rfl, keeps_recorded_take here plain⟩

theorem erasedAll_recorded_keep (root : Item σ ε) : ∀ (items : List (Item σ ε))
    (address : List Nat) (position : Nat),
    (∀ offset item, items[offset]? = some item →
      root.at? (address ++ [position + offset]) = some item) →
    List.Forall₂ (Corresponds (.keeps root.UnretriedJournal))
      (erasedAll (recordedFrom address position items))
      (erasedAll (recordedFrom address position items))
  | [], _, _, _ => .nil
  | item :: items, address, position, found => by
    refine .cons (erased_recorded_keeps root item _ (found 0 item rfl)) ?_
    refine erasedAll_recorded_keep root items address (position + 1) fun offset next there => ?_
    rw [Nat.add_right_comm]
    exact found (offset + 1) next there

end

end Item

/-- Calls of the recorded flow record the calls of the plain one. -/
theorem Flow.Mirrors.apply {ι : Type} {recorded : Flow (Journaled ι σ ε) ε} {plain : Flow σ ε}
    (h : recorded.Mirrors plain) (state : State) :
    Records (recorded.apply state) (plain.apply state) := by
  intro context journal
  obtain ⟨added, ended⟩ := h.ending state context journal
  refine ⟨added, ?_⟩
  simp only [Flow.apply, ended, h.config]

/-! ## Calls without retries -/

/-- The calls of the flow of a tree are those of the bare flow, that of the erased tree, as long as
the bare ones do not fail. -/
structure Item.RunsErased (root : Item σ ε) (config : Config) (flow bare : Flow σ ε) : Prop where
  /-- They have the same result and leave the same context. -/
  calls : ∀ state context, (∀ cause, (bare.apply state context).1 ≠ .error (.callable cause)) →
    flow.apply state context = bare.apply state context
  /-- They invoke the same functions in the same order, and no handler of a retry. -/
  journals : ∃ recording bareRecording, Flow.compile (root.recorded []) config = .ok recording ∧
    Flow.compile (root.recorded []).erased config = .ok bareRecording ∧
    (∀ state, Records (recording.apply state) (flow.apply state)) ∧
    (∀ state, Records (bareRecording.apply state) (bare.apply state)) ∧
    ∀ state context, (∀ cause, (bare.apply state context).1 ≠ .error (.callable cause)) →
      recording.apply state (context, []) = bareRecording.apply state (context, []) ∧
        ∀ entry ∈ (recording.apply state (context, [])).2.2, root.Unretried entry

theorem Item.runsErased {root : Item σ ε} {config : Config} {flow bare : Flow σ ε}
    (compiles : Flow.compile root config = .ok flow)
    (compilesBare : Flow.compile root.erased config = .ok bare)
    (guards : flow.Related Transition.Guards bare) : root.RunsErased config flow bare := by
  obtain ⟨recording, compilesRecording, mirrors⟩ := Flow.exists_mirrors compiles []
  obtain ⟨bareRecording, compilesBareRecording, guardsRecording⟩ :=
    exists_flow_erased compilesRecording
  have mirrorsBare : bareRecording.Mirrors bare := by
    have corresponds := (root.recorded_corresponds []).erased
    obtain ⟨other, compilesOther, related⟩ := corresponds.compileFlow compilesBare
    obtain rfl := Except.ok.inj (compilesOther.symm.trans compilesBareRecording)
    exact related.mirrors
  obtain ⟨_, _, keeps⟩ :=
    (erased_recorded_keeps root root [] rfl).compileFlow compilesBareRecording
  refine ⟨fun state context => guards.apply_eq, recording, bareRecording, compilesRecording,
    compilesBareRecording, mirrors.apply, mirrorsBare.apply, fun state context succeeds => ?_⟩
  -- The recorded tree is a tree, too: erasing its retries changes no call that does not fail.
  have same : recording.apply state (context, []) = bareRecording.apply state (context, []) := by
    apply guardsRecording.apply_eq
    obtain ⟨added, eq⟩ := mirrorsBare.apply state context []
    rw [eq]
    exact succeeds
  refine ⟨same, ?_⟩
  rw [same]
  exact keeps.keeps_apply state (context, []) fun entry mem => absurd mem List.not_mem_nil

/-- A tree compiles as it does without its retries, but for the ways back that they open, and a
call that does not fail without the retries is the same with them. -/
theorem runs_as_erased (root : Item σ ε) :
    (∀ parent, SameOutcome (Compiled.SameButWaysBack (root.guards parent)) (root.compile parent)
      (root.erased.compile parent)) ∧
    ∀ config flow, Flow.compile root config = .ok flow →
      ∃ bare, Flow.compile root.erased config = .ok bare ∧ root.RunsErased config flow bare := by
  refine ⟨root.sameButWaysBack, fun config flow compiles => ?_⟩
  obtain ⟨bare, compilesBare, guards⟩ := Item.exists_flow_erased compiles
  exact ⟨bare, compilesBare, Item.runsErased compiles compilesBare guards⟩

/-- The deployment uploads at the first attempt, with or without the retry. -/
theorem runs_as_erased_deployment : ∃ flow bare, Deployment.flow {} = .ok flow ∧
    Flow.compile Deployment.item.erased {} = .ok bare ∧
    (bare.apply ⟨["start:deploy/upload/put"]⟩ { uploadSucceedsOn := 1 }).1 =
      .ok ⟨["completed:deploy/upload/put"]⟩ ∧
    flow.apply ⟨["start:deploy/upload/put"]⟩ { uploadSucceedsOn := 1 } =
      bare.apply ⟨["start:deploy/upload/put"]⟩ { uploadSucceedsOn := 1 } := by
  obtain ⟨flow, compiles⟩ : ∃ flow, Deployment.flow {} = .ok flow := ⟨_, rfl⟩
  obtain ⟨bare, compilesBare, runs⟩ := (runs_as_erased Deployment.item).2 {} flow compiles
  have answered : (bare.apply ⟨["start:deploy/upload/put"]⟩ { uploadSucceedsOn := 1 }).1 =
      .ok ⟨["completed:deploy/upload/put"]⟩ := by
    rw [← Except.ok.inj compilesBare]
    decide +kernel
  refine ⟨flow, bare, compiles, compilesBare, answered, runs.calls _ _ fun cause failed => ?_⟩
  rw [answered] at failed
  cases failed

end ResumableFlow
