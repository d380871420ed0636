import ResumableFlow.Error

/-!
# Reading event ids

An event id is read back at its first colon: the kind stands before it, the path after it. Paths may
hold further colons, and only the empty path is refused.
-/

namespace ResumableFlow

/-- The text before the first colon and the text after it. -/
def splitAtColon : List Char → Option (List Char × List Char)
  | [] => none
  | c :: rest =>
    if c = ':' then some ([], rest)
    else (splitAtColon rest).map fun (before, after) => (c :: before, after)

theorem splitAtColon_append {word : List Char} (path : List Char) (h : ':' ∉ word) :
    splitAtColon (word ++ ':' :: path) = some (word, path) := by
  induction word with
  | nil => simp [splitAtColon]
  | cons c rest ih =>
    obtain ⟨hc, hrest⟩ := not_or.mp (mt List.mem_cons.mpr h)
    simp [splitAtColon, Ne.symm hc, ih hrest]

/-- Nothing but the colon is lost. -/
theorem eq_append_of_splitAtColon {text word path : List Char}
    (h : splitAtColon text = some (word, path)) : text = word ++ ':' :: path := by
  induction text generalizing word with
  | nil => simp [splitAtColon] at h
  | cons c rest ih =>
    by_cases hc : c = ':'
    · simp [splitAtColon, hc] at h
      simp [hc, ← h.1, h.2]
    · simp only [splitAtColon, hc, if_false, Option.map_eq_some_iff, Prod.mk.injEq] at h
      obtain ⟨⟨before, after⟩, found, rfl, rfl⟩ := h
      simp [ih found]

/-- The event with the given id. -/
def Event.ofId? (text : String) : Option Event := do
  let (word, path) ← splitAtColon text.toList
  let kind ← EventKind.ofWord? (String.ofList word)
  if path.isEmpty then none else some ⟨kind, String.ofList path⟩

theorem Event.ofId?_id {event : Event} (h : event.scope ≠ "") : ofId? event.id = some event := by
  have noColon : ':' ∉ event.kind.word.toList := by
    cases event.kind <;> decide
  have chars : event.id.toList = event.kind.word.toList ++ ':' :: event.scope.toList := by
    simp [id]
  simp [ofId?, chars, splitAtColon_append _ noColon, EventKind.ofWord?_word, h]

theorem Event.scope_ne_of_ofId? {text : String} {event : Event} (h : ofId? text = some event) :
    event.scope ≠ "" := by
  simp only [ofId?, Option.bind_eq_bind, Option.bind_eq_some_iff] at h
  obtain ⟨⟨word, path⟩, _, kind, _, built⟩ := h
  split at built
  · cases built
  · next nonempty =>
    obtain rfl := Option.some.inj built
    simpa [List.isEmpty_iff] using nonempty

/-- The event with the given id; any other text is refused with that text. -/
def Event.parse {ε : Type} (text : String) : Except (FlowError ε) Event :=
  match Event.ofId? text with
  | some event => .ok event
  | none => .error (.invalidEvent text)

/-- The events of a state. The first text that is no event id is refused. -/
def State.parseEvents {ε : Type} (state : State) : Except (FlowError ε) (List Event) :=
  state.events.mapM Event.parse

end ResumableFlow
