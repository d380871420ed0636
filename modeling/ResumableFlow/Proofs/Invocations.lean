import ResumableFlow.Proofs.Owners
import ResumableFlow.Proofs.Shapes

/-!
# What an edge invokes

An exclusive edge of a recorded tree runs the activity or the condition of its item, and runs it
once. Whatever else it notes is of handlers, and comes only if that run failed
(`Item.Emits.runsAt`). Each entry is made by the function at an address of the tree, not by the
edge, so that an edge which ran its function twice would make two of them.

In the recorded tree with other functions the edge begins at the same address
(`Item.SameShape.recorded`).
-/

namespace ResumableFlow

variable {ι σ ε : Type}

/-! ## Edges that run one function -/

/-- One run of a function that is no handler, alone if it succeeds and with runs of handlers behind
it if it fails. -/
inductive RunsOnce (place : ι) (context : σ) : Option ε → List (Invocation ι σ ε) → Prop
  | succeeds (after : σ) : RunsOnce place context none [⟨place, none, context, after, none⟩]
  | fails (cause : ε) (after : σ) {handlers : List (Invocation ι σ ε)}
    (handling : ∀ entry ∈ handlers, entry.handled ≠ none) :
    RunsOnce place context (some cause) (⟨place, none, context, after, some cause⟩ :: handlers)

namespace RunsOnce

variable {place : ι} {context : σ} {failure : Option ε} {added : List (Invocation ι σ ε)}

theorem handler {cause : ε} {entry : Invocation ι σ ε}
    (h : RunsOnce place context (some cause) added) (handling : entry.handled ≠ none) :
    RunsOnce place context (some cause) (added ++ [entry]) := by
  cases h with
  | @fails _ after handlers earlier =>
    refine .fails cause after fun entry' mem => ?_
    rcases List.mem_append.mp mem with mem | mem
    · exact earlier entry' mem
    · rw [List.mem_singleton.mp mem]
      exact handling

theorem eq_cons (h : RunsOnce place context failure added) : ∃ after handlers,
    added = ⟨place, none, context, after, failure⟩ :: handlers ∧
      ∀ entry ∈ handlers, entry.handled ≠ none := by
  cases h with
  | succeeds after => exact ⟨after, [], rfl, by simp⟩
  | fails cause after handling => exact ⟨after, _, rfl, handling⟩

end RunsOnce

namespace Transition

/-- Taking the edge runs the function at the place once, and fails only if the function fails. -/
def RunsAt (transition : Transition (Journaled ι σ ε) ε) (place : ι) : Prop :=
  ∀ context journal, ∃ answer after failure added,
    transition.take (context, journal) = (answer, (after, journal ++ added)) ∧
      RunsOnce place context failure added ∧ (failure = none → ∃ events, answer = .ok events)

theorem runsAt_chosen {α : Type} (source : Event) (options : List Destination) (place : ι)
    (run : Callable σ ε α) (choose : α → List Event) :
    (chosen source true options ((run.recorded place none).map choose)).RunsAt place := by
  intro context journal
  simp only [take, Callable.map, Callable.recorded]
  rcases run context with ⟨cause | answer, after⟩
  · exact ⟨_, after, some cause, _, rfl, .fails cause after (by simp), by simp⟩
  · exact ⟨_, after, none, _, rfl, .succeeds after, fun _ => ⟨choose answer, rfl⟩⟩

theorem RunsAt.guarded {inner : Transition (Journaled ι σ ε) ε} {place : ι}
    (h : inner.RunsAt place) (restart : Event) (outer : ι) (handler : Handler σ ε) :
    (guarded inner restart (handler.recorded outer)).RunsAt place := by
  intro context journal
  obtain ⟨answer, after, failure, added, taken, runs, succeeded⟩ := h context journal
  simp only [take, Callable.guard, taken]
  rcases answer with cause | events
  · -- The inner edge has failed, and so has its function.
    rcases failure with _ | first
    · obtain ⟨events, answered⟩ := succeeded rfl
      cases answered
    let entry : Invocation ι σ ε :=
      ⟨outer, some cause, after, (handler cause after).2, failureOf (handler cause after).1⟩
    have handled : RunsOnce place context (some first) (added ++ [entry]) :=
      runs.handler (Option.some_ne_none cause)
    simp only [Handler.recorded, Callable.recorded, List.append_assoc]
    rcases answered : handler cause after with ⟨own | _ | _, final⟩ <;>
      exact ⟨_, _, some first, _, rfl, by simpa only [entry, answered] using handled, by simp⟩
  · exact ⟨_, after, failure, added, rfl, runs, fun _ => ⟨events, rfl⟩⟩

/-- Recorded handlers around the edge do not change what it runs. -/
theorem RunsAt.under {place : List Nat} (retries : List (RetryAt σ ε)) :
    ∀ {bare : Transition (Journaled (List Nat) σ ε) ε}, bare.RunsAt place →
    (bare.under ((retries.map RetryAt.recorded).map RetryAt.toGuard)).RunsAt place := by
  induction retries with
  | nil =>
    intro bare h
    exact h
  | cons retry outer ih =>
    intro bare h
    exact ih (h.guarded retry.restart retry.place retry.handler)

end Transition

namespace Item

/-- Whether the item has an activity or a condition of its own. -/
def asks : Item σ ε → Bool
  | activity _ _ | gate _ _ _ | loopUntil _ _ _ | waitFor _ _ => true
  | steps _ _ | retry _ _ | custom _ _ => false

theorem Asks.runsAt {item : Item σ ε} {place : List Nat}
    {bare : Transition (Journaled (List Nat) σ ε) ε} (h : (item.recorded place).Asks bare) :
    item.asks = true ∧ bare.RunsAt place := by
  cases item with
  | steps name items => cases h
  | retry body handler => cases h
  | custom name compile => cases h
  | _ =>
    cases h
    exact ⟨rfl, Transition.runsAt_chosen _ _ place _ _⟩

/-- An edge of the recorded tree runs the function of an item at its address. -/
theorem Emits.runsAt {item : Item σ ε} {here : List Nat} {parent : Option Scope}
    {transition : Transition (Journaled (List Nat) σ ε) ε}
    (h : (item.recorded here).Emits parent transition) : ∃ address owner,
      item.at? address = some owner ∧ owner.asks = true ∧ transition.RunsAt (here ++ address) := by
  obtain ⟨address, recorded, bare, found, asks, eq⟩ := h
  rw [at?_recorded] at found
  obtain ⟨owner, there, rfl⟩ := Option.map_eq_some_iff.mp found
  obtain ⟨asking, runs⟩ := asks.runsAt
  refine ⟨address, owner, there, asking, ?_⟩
  rw [eq here, retriesAround_recorded]
  exact runs.under _

end Item

/-! ## Trees that correspond -/

namespace Item

variable {σ' : Type} {C : Correspondence σ' σ ε}

theorem Corresponds.getElem? : ∀ {items' : List (Item σ' ε)} {items : List (Item σ ε)},
    List.Forall₂ (Corresponds C) items' items → ∀ {position : Nat} {child : Item σ ε},
    items[position]? = some child → ∃ child', items'[position]? = some child' ∧
      child'.Corresponds C child
  | _, _, .cons head _, 0, _, found => ⟨_, rfl, Option.some.inj found ▸ head⟩
  | _, _, .cons _ rest, _ + 1, _, found => getElem? rest found

theorem Corresponds.child? {item' : Item σ' ε} {item : Item σ ε} (h : item'.Corresponds C item)
    {position : Nat} {child : Item σ ε} (there : item.child? position = some child) :
    ∃ child', item'.child? position = some child' ∧ child'.Corresponds C child := by
  cases h with
  | steps name related => exact getElem? related there
  | gate name inner _ | loopUntil name inner _ | retry inner _ =>
    cases position with
    | zero => exact ⟨_, rfl, Option.some.inj there ▸ inner⟩
    | succ position => cases there
  | _ => cases there

/-- Trees that correspond have items that correspond at each address. -/
theorem Corresponds.at? : ∀ (address : List Nat) {item' : Item σ' ε} {item : Item σ ε},
    item'.Corresponds C item → ∀ {inner : Item σ ε}, item.at? address = some inner →
    ∃ inner', item'.at? address = some inner' ∧ inner'.Corresponds C inner
  | [], _, _, h, _, found => ⟨_, rfl, Option.some.inj found ▸ h⟩
  | position :: address, _, _, h, _, found => by
    obtain ⟨child, there, foundChild⟩ := Option.bind_eq_some_iff.mp found
    obtain ⟨child', there', inner⟩ := h.child? there
    rw [Item.at?, there', Option.bind_some]
    exact inner.at? address foundChild

theorem Corresponds.asks_eq {item' : Item σ' ε} {item : Item σ ε} (h : item'.Corresponds C item) :
    item'.asks = item.asks := by
  cases h <;> rfl

end Item

/-! ## Recorded trees of one shape -/

/-- The computation begins with a run at the place. -/
def BeginsAt {α : Type} (place : ι) (run : Journaled ι σ ε → α × Journaled ι σ ε) : Prop :=
  ∀ context journal, ∃ entry rest,
    entry.place = place ∧ (run (context, journal)).2.2 = journal ++ entry :: rest

namespace BeginsAt

variable {α β : Type} {place : ι}

theorem recorded (place : ι) (handled : Option ε) (run : Callable σ ε α) :
    BeginsAt place (run.recorded place handled) := by
  intro context journal
  exact ⟨_, [], rfl, rfl⟩

theorem map {run : Callable (Journaled ι σ ε) ε α} (h : BeginsAt place run) (f : α → β) :
    BeginsAt place (run.map f) := by
  intro context journal
  obtain ⟨entry, rest, there, noted⟩ := h context journal
  refine ⟨entry, rest, there, ?_⟩
  rw [← noted, Callable.map]
  rcases run (context, journal) with ⟨cause | answer, after⟩ <;> rfl

theorem guard {run : Callable (Journaled ι σ ε) ε α} (h : BeginsAt place run)
    {handler : Handler (Journaled ι σ ε) ε}
    (handles : ∀ cause, ∃ outer, BeginsAt outer (handler cause)) (fallback : α) :
    BeginsAt place (run.guard handler fallback) := by
  intro context journal
  obtain ⟨entry, rest, there, noted⟩ := h context journal
  rcases ran : run (context, journal) with ⟨cause | answer, after, journalAfter⟩
  · rw [ran] at noted
    obtain rfl : journalAfter = journal ++ entry :: rest := noted
    obtain ⟨outer, begins⟩ := handles cause
    obtain ⟨asked, others, _, notedOuter⟩ := begins after (journal ++ entry :: rest)
    refine ⟨entry, rest ++ asked :: others, there, ?_⟩
    rw [← List.cons_append, ← List.append_assoc, ← notedOuter]
    simp only [Callable.guard, ran]
    rcases handler cause (after, journal ++ entry :: rest) with ⟨own | _ | _, final⟩ <;> rfl
  · refine ⟨entry, rest, there, ?_⟩
    rw [← noted]
    simp only [Callable.guard, ran]

end BeginsAt

namespace Transition

theorem RunsAt.eq_of_beginsAt {transition : Transition (Journaled ι σ ε) ε} {place first : ι}
    (h : transition.RunsAt place) (begins : BeginsAt first transition.take) (context : σ) :
    place = first := by
  obtain ⟨answer, after, failure, added, taken, runs, _⟩ := h context []
  obtain ⟨entry, rest, there, noted⟩ := begins context []
  obtain ⟨_, handlers, eq, _⟩ := runs.eq_cons
  rw [taken, eq] at noted
  obtain ⟨rfl, _⟩ := List.cons.inj (List.append_cancel_left noted)
  exact there

/-- The edges agree before anything runs, and begin at one place. -/
structure SameRun (a b : Transition (Journaled ι σ ε) ε) : Prop extends SameEdge a b where
  begins : b.isExclusive = true → ∃ place, BeginsAt place a.take ∧ BeginsAt place b.take

/-- Edges that begin at one place run the function at one place. -/
theorem SameRun.runsAt {a b : Transition (Journaled ι σ ε) ε} (h : a.SameRun b)
    (exclusive : b.isExclusive = true) {place own : ι} (runs : b.RunsAt place)
    (runsOwn : a.RunsAt own) : a.RunsAt place := by
  intro context journal
  obtain ⟨first, beginsOwn, begins⟩ := h.begins exclusive
  obtain rfl : place = own :=
    (runs.eq_of_beginsAt begins context).trans (runsOwn.eq_of_beginsAt beginsOwn context).symm
  exact runsOwn context journal

end Transition

theorem Transition.beginsAt_recorded (place : ι) : ∀ {transition : Transition σ ε},
    transition.isExclusive = true → BeginsAt place (transition.recorded fun _ _ => place).take
  | .fixed _ _, exclusive => by cases exclusive
  | .chosen _ _ _ choose, _ => .recorded place none choose
  | .guarded inner restart handler, exclusive => by
    have begins : BeginsAt place (inner.recorded fun _ _ => place).take :=
      beginsAt_recorded place exclusive
    have handles : ∀ cause, ∃ outer, BeginsAt outer (handler.recorded place cause) :=
      fun cause => ⟨place, .recorded place (some cause) (handler cause)⟩
    exact begins.guard handles [restart]

theorem Transition.SameEdge.recorded {a b : Transition σ ε} (h : a.SameEdge b) (place : ι) :
    (a.recorded fun _ _ => place).SameRun (b.recorded fun _ _ => place) where
  source := by rw [source_recorded, source_recorded, h.source]
  fixed := by rw [target?_recorded, target?_recorded, h.fixed]
  exclusive := by rw [isExclusive_recorded, isExclusive_recorded, h.exclusive]
  begins := by
    intro exclusive
    rw [isExclusive_recorded] at exclusive
    exact ⟨place, beginsAt_recorded place (h.exclusive.trans exclusive),
      beginsAt_recorded place exclusive⟩

/-- Functions that begin at one place make edges that begin at one place. -/
def Correspondence.beginning : Correspondence (Journaled ι σ ε) (Journaled ι σ ε) ε where
  callable run' run := ∃ place, BeginsAt place run' ∧ BeginsAt place run
  transition := Transition.SameRun
  fixed _ _ := ⟨⟨rfl, rfl, rfl⟩, fun exclusive => by cases exclusive⟩
  chosen := by
    rintro α run' run ⟨place, begins', begins⟩ source options choose
    exact ⟨⟨rfl, rfl, rfl⟩, fun _ => ⟨place, begins'.map choose, begins.map choose⟩⟩
  guarded := by
    intro inner' inner handler' handler same related restart
    refine ⟨⟨same.source, same.fixed, same.exclusive⟩, fun exclusive => ?_⟩
    obtain ⟨place, begins', begins⟩ := same.begins exclusive
    refine ⟨place, begins'.guard (fun cause => ?_) [restart],
      begins.guard (fun cause => ?_) [restart]⟩
    · obtain ⟨outer, begins', _⟩ := related cause
      exact ⟨outer, begins'⟩
    · obtain ⟨outer, _, begins⟩ := related cause
      exact ⟨outer, begins⟩

namespace Item

theorem begin_recorded {α : Type} (place : ι) (handled : Option ε) (run' run : Callable σ ε α) :
    Correspondence.beginning.callable (run'.recorded place handled) (run.recorded place handled) :=
  ⟨place, .recorded place handled run', .recorded place handled run⟩

mutual

/-- Recorded trees of one shape begin each edge at the same address. -/
theorem SameShape.recorded : ∀ {root other : Item σ ε}, root.SameShape other →
    ∀ address, (other.recorded address).Corresponds .beginning (root.recorded address)
  | .activity _ _, _, .activity name _, address => .activity name (begin_recorded address none _ _)
  | .steps _ _, _, .steps name related, address =>
    .steps name (sameShapes_recorded related address 0)
  | .gate _ _ _, _, .gate name inner _, address =>
    .gate name (SameShape.recorded inner (address ++ [0])) (begin_recorded address none _ _)
  | .loopUntil _ _ _, _, .loopUntil name inner _, address =>
    .loopUntil name (SameShape.recorded inner (address ++ [0])) (begin_recorded address none _ _)
  | .retry _ _, _, .retry inner _, address =>
    .retry (SameShape.recorded inner (address ++ [0]))
      fun cause => begin_recorded address (some cause) _ _
  | .waitFor _ _, _, .waitFor name _, address => .waitFor name (begin_recorded address none _ _)
  | .custom _ compile, _, .custom name related, address => .custom name fun parent noted found => by
    rcases compiles : compile parent with cause | compiled <;> rw [compiles] at found
    · cases found
    obtain rfl := Except.ok.inj found
    obtain ⟨compiled', compiles', scope, edges⟩ := related parent compiled compiles
    refine ⟨compiled'.recorded fun _ _ => address, ?_, scope, ?_⟩
    · rw [compiles']
      rfl
    · simp only [Compiled.recorded, List.forall₂_map_left_iff, List.forall₂_map_right_iff]
      exact edges.imp fun _ _ same => same.recorded address

theorem sameShapes_recorded : ∀ {items' items : List (Item σ ε)},
    List.Forall₂ (Corresponds .shape) items' items → ∀ (address : List Nat) (position : Nat),
    List.Forall₂ (Corresponds .beginning) (recordedFrom address position items')
      (recordedFrom address position items)
  | _, [], .nil, _, _ => .nil
  | _, _ :: _, .cons head rest, address, position =>
    .cons (SameShape.recorded head (address ++ [position]))
      (sameShapes_recorded rest address (position + 1))

end

end Item

end ResumableFlow
