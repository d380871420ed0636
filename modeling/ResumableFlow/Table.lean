import ResumableFlow.State
import ResumableFlow.Transition

/-!
# Transition tables

A table keeps transitions in the order they were compiled in, and beside it an index from source ids
to the transitions with that source. Several transitions may share a source; a lookup takes the
first.
-/

namespace ResumableFlow

variable {σ ε : Type}

/-! ## The index -/

/-- Transitions grouped by the id of their source. Each id has one group,
which keeps their order. -/
abbrev SourceIndex (σ ε : Type) := List (String × List (Transition σ ε))

namespace SourceIndex

/-- Add a transition at the end of its group. -/
def add (transition : Transition σ ε) : SourceIndex σ ε → SourceIndex σ ε
  | [] => [(transition.source.id, [transition])]
  | (id, group) :: groups =>
    if id = transition.source.id then (id, group ++ [transition]) :: groups
    else (id, group) :: add transition groups

def ofList (transitions : List (Transition σ ε)) : SourceIndex σ ε :=
  transitions.foldl (fun index transition => add transition index) []

def group (index : SourceIndex σ ε) (id : String) : List (Transition σ ε) :=
  (index.lookup id).getD []

@[simp] theorem group_nil (id : String) : group ([] : SourceIndex σ ε) id = [] := rfl

theorem group_cons (key : String) (members : List (Transition σ ε)) (groups : SourceIndex σ ε)
    (id : String) :
    group ((key, members) :: groups) id = if id = key then members else groups.group id := by
  by_cases h : id = key
  · simp [group, h]
  · have hne : (id == key) = false := beq_eq_false_iff_ne.mpr h
    simp [group, List.lookup_cons, hne, h]

/-- Adding a transition extends the group of its source and no other one. -/
theorem group_add (transition : Transition σ ε) (index : SourceIndex σ ε) (id : String) :
    (add transition index).group id =
      index.group id ++ if id = transition.source.id then [transition] else [] := by
  induction index with
  | nil => rw [add, group_cons]; simp
  | cons entry groups ih =>
    obtain ⟨key, members⟩ := entry
    by_cases hkey : key = transition.source.id
    · by_cases h : id = key <;> simp [add, group_cons, hkey, hkey ▸ h]
    · rw [add, if_neg hkey, group_cons, group_cons, ih]
      by_cases h : id = key
      · simp [h, hkey]
      · simp [h]

/-- The group of an id holds the transitions with that source, in their order. -/
theorem group_ofList (transitions : List (Transition σ ε)) (id : String) :
    (ofList transitions).group id =
      transitions.filter fun transition => transition.source.id = id := by
  suffices general : ∀ index : SourceIndex σ ε,
      group (transitions.foldl (fun index transition => add transition index) index) id =
        index.group id ++ transitions.filter fun transition => transition.source.id = id from
    (general []).trans (List.nil_append _)
  induction transitions with
  | nil =>
    intro index
    simp
  | cons transition rest ih =>
    intro index
    rw [List.foldl_cons, ih, group_add, List.append_assoc, List.filter_cons]
    by_cases h : transition.source.id = id
    · simp [h]
    · simp [h, Ne.symm h]

end SourceIndex

/-! ## Tables -/

/-- Transitions in order, with an index of their sources. -/
structure Table (σ ε : Type) where
  transitions : List (Transition σ ε)
  index : SourceIndex σ ε

namespace Table

def ofList (transitions : List (Transition σ ε)) : Table σ ε :=
  ⟨transitions, .ofList transitions⟩

@[simp] theorem transitions_ofList (transitions : List (Transition σ ε)) :
    (ofList transitions).transitions = transitions := rfl

def length (table : Table σ ε) : Nat := table.transitions.length

def isEmpty (table : Table σ ε) : Bool := table.transitions.isEmpty

/-- Every transition that leaves the event with the id, in order. -/
def candidates (table : Table σ ε) (id : String) : List (Transition σ ε) := table.index.group id

theorem candidates_ofList (transitions : List (Transition σ ε)) (id : String) :
    (ofList transitions).candidates id =
      transitions.filter fun transition => transition.source.id = id :=
  SourceIndex.group_ofList transitions id

/-- The first transition that leaves the event with the id. -/
def get? (table : Table σ ε) (id : String) : Option (Transition σ ε) := (table.candidates id).head?

theorem get?_ofList (transitions : List (Transition σ ε)) (id : String) :
    (ofList transitions).get? id =
      transitions.find? fun transition => transition.source.id = id := by
  rw [get?, candidates_ofList, List.head?_filter]

/-- The transition for a state: that of its first event that has one. -/
def lookup (table : Table σ ε) (state : State) : Option (Transition σ ε) :=
  state.events.findSome? table.get?

def rows (table : Table σ ε) : List Row := table.transitions.map Transition.row

end Table

end ResumableFlow
