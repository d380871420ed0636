import ResumableFlow.Proofs.Codecs

/-!
# Texts that are event ids

Just the ids of events with a path are read as events, and each as the event that it is the id of. A
state is read event by event, and is refused at its first text that is no such id. What was read is
the state again, so that to wait at an event is to have read it (`State.parseEvents_exact`).
-/

namespace ResumableFlow

variable {ε : Type}

/-! ## Events -/

theorem EventKind.ofWord?_eq_some_iff {word : String} {kind : EventKind} :
    ofWord? word = some kind ↔ word = kind.word := by
  constructor
  · intro named
    rw [ofWord?] at named
    split at named
    · next isStart => rw [isStart, ← Option.some.inj named, EventKind.word]
    · split at named
      · next isCompleted => rw [isCompleted, ← Option.some.inj named, EventKind.word]
      · cases named
  · rintro rfl
    exact ofWord?_word kind

namespace Event

/-- The text is the id of an event with a path. -/
def IsId (text : String) : Prop := ∃ event : Event, event.HasPath ∧ text = event.id

theorem eq_id_of_ofId? {text : String} {event : Event} (read : ofId? text = some event) :
    text = event.id := by
  simp only [ofId?, Option.bind_eq_bind, Option.bind_eq_some_iff] at read
  obtain ⟨⟨word, path⟩, atColon, kind, named, built⟩ := read
  split at built
  · cases built
  · obtain rfl := Option.some.inj built
    apply String.toList_inj.mp
    calc text.toList
        = word ++ ':' :: path := eq_append_of_splitAtColon atColon
      _ = kind.word.toList ++ ':' :: path := by
          rw [← EventKind.ofWord?_eq_some_iff.mp named, String.toList_ofList]
      _ = (id ⟨kind, String.ofList path⟩).toList := by simp [id]

theorem ofId?_eq_some_iff {text : String} {event : Event} :
    ofId? text = some event ↔ event.HasPath ∧ text = event.id := by
  constructor
  · exact fun read => ⟨scope_ne_of_ofId? read, eq_id_of_ofId? read⟩
  · rintro ⟨hasPath, rfl⟩
    exact ofId?_id hasPath

theorem ofId?_eq_none_iff {text : String} : ofId? text = none ↔ ¬IsId text := by
  simp only [Option.eq_none_iff_forall_ne_some, IsId, ne_eq, ofId?_eq_some_iff, not_exists]

theorem parse_eq_ok_iff {text : String} {event : Event} :
    parse (ε := ε) text = .ok event ↔ event.HasPath ∧ text = event.id := by
  rw [← ofId?_eq_some_iff, parse]
  cases ofId? text <;> simp

theorem parse_eq_error_iff {text : String} {error : FlowError ε} :
    parse text = .error error ↔ ¬IsId text ∧ error = .invalidEvent text := by
  rw [← ofId?_eq_none_iff, parse]
  cases ofId? text <;> simp [eq_comm]

end Event

/-! ## States -/

namespace State

theorem parseEvents_cons (text : String) (texts : List String) :
    parseEvents (ε := ε) ⟨text :: texts⟩ = do
      let event ← Event.parse text
      let events ← parseEvents ⟨texts⟩
      return event :: events :=
  List.mapM_cons

theorem parseEvents_ofEvents {events : List Event} (hasPaths : ∀ event ∈ events, event.HasPath) :
    (ofEvents events).parseEvents (ε := ε) = .ok events := by
  induction events with
  | nil => rfl
  | cons event events ih =>
    obtain ⟨hasPath, hasPaths⟩ := List.forall_mem_cons.mp hasPaths
    have first : Event.parse (ε := ε) event.id = .ok event :=
      Event.parse_eq_ok_iff.mpr ⟨hasPath, rfl⟩
    have rest : parseEvents (ε := ε) ⟨events.map Event.id⟩ = .ok events := ih hasPaths
    rw [ofEvents, List.map_cons, parseEvents_cons, first, rest]
    rfl

/-- How far a state is read: up to its end, with these events, or up to the first text that is not
the id of an event. -/
inductive Read : List String → Except (FlowError ε) (List Event) → Prop
  | done {events : List Event} (hasPaths : ∀ event ∈ events, event.HasPath) :
    Read (events.map Event.id) (.ok events)
  | refused {before : List String} (ids : ∀ text ∈ before, Event.IsId text) {text : String}
    (noId : ¬Event.IsId text) (behind : List String) :
    Read (before ++ text :: behind) (.error (.invalidEvent text))

theorem parseEvents_read (texts : List String) : Read texts (parseEvents (ε := ε) ⟨texts⟩) := by
  -- Where the first text is refused, nothing behind it is looked at; else the rest decides.
  induction texts with
  | nil => exact @Read.done ε [] nofun
  | cons text texts ih =>
    rw [parseEvents_cons]
    cases first : Event.parse (ε := ε) text with
    | error error =>
      obtain ⟨noId, rfl⟩ := Event.parse_eq_error_iff.mp first
      exact @Read.refused ε [] nofun text noId texts
    | ok event =>
      obtain ⟨hasPath, rfl⟩ := Event.parse_eq_ok_iff.mp first
      cases rest : parseEvents (ε := ε) ⟨texts⟩ with
      | error error =>
        rw [rest] at ih
        cases ih with
        | refused ids noId behind =>
          exact .refused (List.forall_mem_cons.mpr ⟨⟨event, hasPath, rfl⟩, ids⟩) noId behind
      | ok events =>
        rw [rest] at ih
        cases ih with
        | done hasPaths => exact .done (List.forall_mem_cons.mpr ⟨hasPath, hasPaths⟩)

theorem parseEvents_eq_ok_iff {state : State} {events : List Event} :
    state.parseEvents (ε := ε) = .ok events ↔
      ofEvents events = state ∧ ∀ event ∈ events, event.HasPath := by
  constructor
  · intro ok
    obtain ⟨texts⟩ := state
    have read := parseEvents_read (ε := ε) texts
    rw [ok] at read
    cases read with
    | done hasPaths => exact ⟨rfl, hasPaths⟩
  · rintro ⟨rfl, hasPaths⟩
    exact parseEvents_ofEvents hasPaths

theorem exists_first_of_parseEvents {state : State} {error : FlowError ε}
    (failed : state.parseEvents = .error error) : ∃ before text behind,
      state.events = before ++ text :: behind ∧ (∀ other ∈ before, Event.IsId other) ∧
        ¬Event.IsId text ∧ error = .invalidEvent text := by
  obtain ⟨texts⟩ := state
  have read := parseEvents_read (ε := ε) texts
  rw [failed] at read
  cases read with
  | refused ids noId behind => exact ⟨_, _, behind, rfl, ids, noId, rfl⟩

theorem exists_parseEvents_iff {state : State} :
    (∃ events, state.parseEvents (ε := ε) = .ok events) ↔
      ∀ text ∈ state.events, Event.IsId text := by
  constructor
  · rintro ⟨events, ok⟩ text mem
    obtain ⟨rfl, hasPaths⟩ := parseEvents_eq_ok_iff.mp ok
    obtain ⟨event, given, rfl⟩ := List.mem_map.mp mem
    exact ⟨event, hasPaths event given, rfl⟩
  · intro ids
    cases result : state.parseEvents (ε := ε) with
    | ok events => exact ⟨events, rfl⟩
    | error error =>
      obtain ⟨before, text, behind, texts, _, noId, _⟩ := exists_first_of_parseEvents result
      exact absurd (ids text (by simp [texts])) noId

/-- What is read, and as what: of the texts, the ids of events with a path; of the states, those
that hold such ids only. The events that were read make up the state again and are the ones that it
waits at. What is refused is named: a text on its own, and the first such text of a state. -/
theorem parseEvents_exact :
    (∀ text event, Event.parse (ε := ε) text = .ok event ↔ event.HasPath ∧ text = event.id) ∧
    (∀ text (error : FlowError ε), Event.parse text = .error error ↔
      ¬Event.IsId text ∧ error = .invalidEvent text) ∧
    ∀ state : State,
      ((∃ events, state.parseEvents (ε := ε) = .ok events) ↔
        ∀ text ∈ state.events, Event.IsId text) ∧
      (∀ events, state.parseEvents (ε := ε) = .ok events →
        ofEvents events = state ∧ ∀ event, state.contains event = true ↔ event ∈ events) ∧
      ∀ error : FlowError ε, state.parseEvents = .error error → ∃ before text behind,
        state.events = before ++ text :: behind ∧ (∀ other ∈ before, Event.IsId other) ∧
          ¬Event.IsId text ∧ error = .invalidEvent text := by
  refine ⟨fun _ _ => Event.parse_eq_ok_iff, fun _ _ => Event.parse_eq_error_iff, fun state =>
    ⟨exists_parseEvents_iff, fun events ok => ?_, fun _ => exists_first_of_parseEvents⟩⟩
  obtain ⟨rfl, _⟩ := parseEvents_eq_ok_iff.mp ok
  exact ⟨rfl, fun _ => contains_ofEvents⟩

/-- A state whose paths hold colons and look like further ids. -/
def nested : State := ⟨["start:completed:a", "completed::/"]⟩

theorem parseEvents_exact_nested :
    nested.parseEvents (ε := String) = .ok [⟨.start, "completed:a"⟩, ⟨.completed, ":/"⟩] ∧
    (∀ event, nested.contains event = true ↔
      event ∈ [⟨.start, "completed:a"⟩, ⟨.completed, ":/"⟩]) ∧
    (⟨nested.events ++ ["start:", "finished:a"]⟩ : State).parseEvents (ε := String) =
      .error (.invalidEvent "start:") ∧
    ¬Event.IsId "start:" := by
  obtain ⟨texts, refused, states⟩ := parseEvents_exact (ε := String)
  have read : nested.parseEvents (ε := String) =
      .ok [⟨.start, "completed:a"⟩, ⟨.completed, ":/"⟩] := by decide +kernel
  have noId : Event.parse (ε := String) "start:" = .error (.invalidEvent "start:") := by
    decide +kernel
  exact ⟨read, ((states nested).2.1 _ read).2, by decide +kernel, ((refused _ _).mp noId).1⟩

end State

end ResumableFlow
