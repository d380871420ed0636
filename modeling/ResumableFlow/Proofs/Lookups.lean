import ResumableFlow.Proofs.FirstOccurrences
import ResumableFlow.Table

/-!
# Tables as plain lists

A table answers from an index of source ids. The index is the list of transitions put into groups,
and nothing else (`SourceIndex.Groups`), so that every answer is the one that a scan of the list
would give (`Table.ofList_agrees`). That the groups go by the id of an event and not by the event
makes no difference, for different events have different ids, whatever their paths hold.
-/

namespace ResumableFlow

variable {σ ε : Type}

/-! ## Scans -/

/-- The transitions that leave the event with the id, in order. -/
def leaving (transitions : List (Transition σ ε)) (id : String) : List (Transition σ ε) :=
  transitions.filter fun transition => transition.source.id = id

/-- The earliest text of the state that is the id of the source of any transition. -/
def earliestSource? (transitions : List (Transition σ ε)) (state : State) : Option String :=
  state.events.find? fun id => transitions.any fun transition => transition.source.id = id

/-- The first transition that leaves the earliest source among the events of the state. -/
def scan (transitions : List (Transition σ ε)) (state : State) : Option (Transition σ ε) :=
  (earliestSource? transitions state).bind fun id =>
    transitions.find? fun transition => transition.source.id = id

/-! ## The index -/

namespace SourceIndex

/-- The index puts the transitions of the list into groups. -/
structure Groups (index : SourceIndex σ ε) (transitions : List (Transition σ ε)) : Prop where
  /-- An id has one group at most. -/
  nodup : (index.map Prod.fst).Nodup
  /-- A group holds the transitions that leave its id, in order. -/
  group_eq : ∀ entry ∈ index, entry.2 = leaving transitions entry.1
  /-- The groups together hold each transition of the list as often as the list does. -/
  perm : (index.flatMap Prod.snd).Perm transitions

theorem map_fst_add (transition : Transition σ ε) (index : SourceIndex σ ε) :
    (add transition index).map Prod.fst =
      if transition.source.id ∈ index.map Prod.fst then index.map Prod.fst
      else index.map Prod.fst ++ [transition.source.id] := by
  induction index with
  | nil => simp [add]
  | cons entry groups ih =>
    obtain ⟨id, group⟩ := entry
    by_cases own : id = transition.source.id
    · simp [add, own]
    · rw [add, if_neg own, List.map_cons, ih, List.map_cons]
      by_cases known : transition.source.id ∈ groups.map Prod.fst
      · rw [if_pos known, if_pos (List.mem_cons_of_mem id known)]
      · rw [if_neg known, if_neg (List.not_mem_cons_of_ne_of_not_mem (Ne.symm own) known),
          List.cons_append]

/-- Whatever group it goes to, an added transition is one more member. -/
theorem flatMap_add_perm (transition : Transition σ ε) (index : SourceIndex σ ε) :
    ((add transition index).flatMap Prod.snd).Perm (transition :: index.flatMap Prod.snd) := by
  induction index with
  | nil => exact .refl _
  | cons entry groups ih =>
    obtain ⟨id, group⟩ := entry
    by_cases own : id = transition.source.id
    · rw [add, if_pos own, List.flatMap_cons, List.append_assoc, List.singleton_append]
      exact List.perm_middle
    · rw [add, if_neg own, List.flatMap_cons]
      exact (ih.append_left group).trans List.perm_middle

theorem group_of_mem {index : SourceIndex σ ε} (nodup : (index.map Prod.fst).Nodup)
    {entry : String × List (Transition σ ε)} (mem : entry ∈ index) :
    index.group entry.1 = entry.2 := by
  induction index with
  | nil => cases mem
  | cons first groups ih =>
    rw [List.map_cons, List.nodup_cons] at nodup
    rw [group_cons]
    rcases List.mem_cons.mp mem with rfl | later
    · exact if_pos rfl
    · have other : entry.1 ≠ first.1 := fun same =>
        nodup.1 (same ▸ List.mem_map_of_mem later)
      rw [if_neg other, ih nodup.2 later]

theorem ofList_concat (transitions : List (Transition σ ε)) (last : Transition σ ε) :
    ofList (transitions ++ [last]) = add last (ofList transitions) := by
  simp only [ofList, List.foldl_append, List.foldl_cons, List.foldl_nil]

/-- The groups come in the order in which their ids first occur. -/
theorem map_fst_ofList (transitions : List (Transition σ ε)) :
    (ofList transitions).map Prod.fst =
      (transitions.map fun transition => transition.source.id).eraseDups := by
  induction transitions using List.reverseRecOn with
  | nil => rfl
  | append_singleton transitions last ih =>
    rw [ofList_concat, map_fst_add, ih, List.map_append, List.map_singleton]
    by_cases known : last.source.id ∈ transitions.map fun transition => transition.source.id
    · rw [if_pos (List.mem_eraseDups.mpr known), eraseDups_concat_of_mem known]
    · rw [if_neg (mt List.mem_eraseDups.mp known), eraseDups_concat_of_notMem known]

theorem nodup_ofList (transitions : List (Transition σ ε)) :
    ((ofList transitions).map Prod.fst).Nodup := by
  rw [map_fst_ofList]
  exact (eraseDups_firstOccurrences _).nodup

theorem flatMap_ofList_perm (transitions : List (Transition σ ε)) :
    ((ofList transitions).flatMap Prod.snd).Perm transitions := by
  induction transitions using List.reverseRecOn with
  | nil => exact .refl []
  | append_singleton transitions last ih =>
    rw [ofList_concat]
    have added := (flatMap_add_perm last (ofList transitions)).trans (ih.cons last)
    exact added.trans (List.perm_append_singleton last transitions).symm

theorem ofList_groups (transitions : List (Transition σ ε)) :
    (ofList transitions).Groups transitions where
  nodup := nodup_ofList transitions
  group_eq entry mem := by
    rw [← group_of_mem (nodup_ofList transitions) mem, group_ofList, leaving]
  perm := flatMap_ofList_perm transitions

end SourceIndex

/-! ## Tables -/

namespace Table

/-- A table answers as the plain list of its transitions does. -/
structure Agrees (table : Table σ ε) (transitions : List (Transition σ ε)) : Prop where
  transitions_eq : table.transitions = transitions
  groups : table.index.Groups transitions
  candidates_eq : ∀ id, table.candidates id = leaving transitions id
  get?_eq : ∀ id, table.get? id = (leaving transitions id).head?
  lookup_eq : ∀ state, table.lookup state = scan transitions state

theorem lookup_ofList (transitions : List (Transition σ ε)) (state : State) :
    (ofList transitions).lookup state = scan transitions state := by
  obtain ⟨events⟩ := state
  show events.findSome? (ofList transitions).get? = _
  induction events with
  | nil => rfl
  | cons id events ih =>
    have isSource : (transitions.any fun transition => transition.source.id = id) =
        (transitions.find? fun transition => transition.source.id = id).isSome :=
      List.isSome_find?.symm
    rw [List.findSome?_cons, get?_ofList, ih]
    simp only [scan, earliestSource?, List.find?_cons, isSource]
    cases found : transitions.find? fun transition => transition.source.id = id with
    | none => rfl
    | some transition => exact found.symm

/-- A table that is built from a list agrees with the list: its index loses and repeats no
transition, and each answer is that of a scan. Events are told apart by their ids, so that the group
of an id is that of an event. -/
theorem ofList_agrees (transitions : List (Transition σ ε)) :
    (ofList transitions).Agrees transitions ∧
      (∀ a b : Event, a.id = b.id ↔ a.kind = b.kind ∧ a.scope = b.scope) ∧
      ∀ event : Event, (ofList transitions).candidates event.id =
        transitions.filter fun transition => transition.source = event := by
  refine ⟨⟨rfl, SourceIndex.ofList_groups transitions, candidates_ofList transitions, fun id => ?_,
    lookup_ofList transitions⟩, fun a b => ?_, fun event => ?_⟩
  · rw [get?, candidates_ofList, leaving]
  · rw [Event.id_eq_iff, Event.mk.injEq]
  · simp only [candidates_ofList, Event.id_eq_iff]

/-- Of two events with a transition the earlier one decides, and of its
two transitions the first. -/
example :
    let table : Table Unit String := ofList [.fixed ⟨.start, "a:b"⟩ ⟨.completed, "a:b"⟩,
      .fixed ⟨.completed, "a"⟩ ⟨.start, "b"⟩, .fixed ⟨.start, "a:b"⟩ ⟨.completed, "a"⟩]
    (table.lookup ⟨["completed:b", "start:a:b", "completed:a"]⟩).map Transition.row =
      some ⟨⟨.start, "a:b"⟩, false, [⟨⟨.completed, "a:b"⟩, "static"⟩]⟩ := by
  decide +kernel

end Table

end ResumableFlow
