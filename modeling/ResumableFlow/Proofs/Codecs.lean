import ResumableFlow.Flow.Drive
import ResumableFlow.Proofs.StoredForms

/-!
# Lossless storage

Events, destinations, rows and states are stored as one line of JSON. What is stored is read back as
it was, and a text that can be read, in whatever way it was written, is stored and read as the same
value from then on (`stored_losslessly`). A caller may therefore put the state of an instance away
as text between any two calls.

The one thing that is not read back is an event without a path. No text is read as such an event,
so that the values that can be stored are those that can be read.
-/

namespace ResumableFlow

variable {σ ε : Type}

/-! ## Codecs -/

/-- How the values of a type are written as JSON and read back. -/
structure Codec (α : Type) where
  toJson : α → Json
  ofJson? : Json → Option α

namespace Codec

variable {α : Type}

/-- The text that a value is stored as. -/
def text (codec : Codec α) (value : α) : String := (codec.toJson value).compact

def ofText? (codec : Codec α) (text : String) : Option α := (Json.parse text).bind codec.ofJson?

structure Lossless (codec : Codec α) (Storable : α → Prop) : Prop where
  /-- A value that can be stored is read back. -/
  ofText?_text : ∀ value, Storable value → codec.ofText? (codec.text value) = some value
  /-- A value that was read from any text is read back, too, and stored as the same text again. -/
  rewritten : ∀ text value, codec.ofText? text = some value →
    codec.ofText? (codec.text value) = some value ∧
      (codec.ofText? (codec.text value)).map codec.text = some (codec.text value)

/-- It is enough that values survive as JSON values, and that the ones that can be read can be
stored. -/
theorem Lossless.of_values {codec : Codec α} {Storable : α → Prop}
    (plain : ∀ value, (codec.toJson value).isPlain = true)
    (reads : ∀ value, Storable value → codec.ofJson? (codec.toJson value) = some value)
    (storable : ∀ json value, codec.ofJson? json = some value → Storable value) :
    codec.Lossless Storable := by
  have back : ∀ value, Storable value → codec.ofText? (codec.text value) = some value := by
    intro value stores
    have parsed : Json.parse (codec.text value) = some (codec.toJson value) :=
      Json.parse_chars _ .compact (plain value)
    rw [ofText?, parsed, Option.bind_some, reads value stores]
  refine ⟨back, fun text value read => ?_⟩
  obtain ⟨json, _, ofJson⟩ := Option.bind_eq_some_iff.mp read
  have again := back value (storable json value ofJson)
  exact ⟨again, by rw [again, Option.map_some]⟩

end Codec

theorem Json.exists_of_mem_mapM {α : Type} {read : Json → Option α} : ∀ {items : List Json}
    {values : List α}, items.mapM read = some values →
    ∀ value ∈ values, ∃ item ∈ items, read item = some value
  | [], _, h => by
    obtain rfl := Option.some.inj h
    intro value mem
    cases mem
  | item :: items, _, h => by
    rw [List.mapM_cons] at h
    obtain ⟨first, readFirst, h⟩ := Option.bind_eq_some_iff.mp h
    obtain ⟨rest, readRest, h⟩ := Option.bind_eq_some_iff.mp h
    obtain rfl := Option.some.inj h
    intro value mem
    rcases List.mem_cons.mp mem with rfl | mem
    · exact ⟨item, List.mem_cons_self, readFirst⟩
    · obtain ⟨source, memSource, readSource⟩ := exists_of_mem_mapM readRest value mem
      exact ⟨source, List.mem_cons_of_mem _ memSource, readSource⟩

/-! ## Events -/

namespace Event

/-- The path is not the empty text, as it is for the events of every scope with a name. -/
def HasPath (event : Event) : Prop := event.scope ≠ ""

def codec : Codec Event := ⟨toJson, ofJson?⟩

theorem ofJson?_toJson {event : Event} (h : event.HasPath) : ofJson? event.toJson = some event :=
  ofId?_id h

theorem hasPath_of_ofJson? {json : Json} {event : Event} (h : ofJson? json = some event) :
    event.HasPath := by
  obtain ⟨text, _, read⟩ := Option.bind_eq_some_iff.mp h
  exact scope_ne_of_ofId? read

theorem codec_lossless : codec.Lossless HasPath :=
  .of_values (fun _ => rfl) (fun _ => ofJson?_toJson) fun _ _ => hasPath_of_ofJson?

end Event

/-! ## Records -/

namespace Destination

def HasPath (destination : Destination) : Prop := destination.event.HasPath

def codec : Codec Destination := ⟨toJson, ofJson?⟩

theorem ofJson?_toJson {destination : Destination} (h : destination.HasPath) :
    ofJson? destination.toJson = some destination := by
  have fields : destination.toJson.fields? ["event", "reason"] =
      some [some destination.event.toJson, some (.str destination.reason)] := rfl
  rw [ofJson?, fields]
  simp only [Option.bind_eq_bind, Option.bind_some, Json.required, Event.ofJson?_toJson h,
    Json.text?]
  rfl

theorem hasPath_of_ofJson? {json : Json} {destination : Destination}
    (h : ofJson? json = some destination) : destination.HasPath := by
  rw [ofJson?] at h
  obtain ⟨fields, _, h⟩ := Option.bind_eq_some_iff.mp h
  split at h
  · next event reason =>
    obtain ⟨read, readEvent, h⟩ := Option.bind_eq_some_iff.mp h
    obtain ⟨text, _, h⟩ := Option.bind_eq_some_iff.mp h
    obtain rfl := Option.some.inj h
    obtain ⟨value, _, ofJson⟩ := Option.bind_eq_some_iff.mp readEvent
    exact Event.hasPath_of_ofJson? ofJson
  · cases h

theorem codec_lossless : codec.Lossless HasPath :=
  .of_values (fun _ => rfl) (fun _ => ofJson?_toJson) fun _ _ => hasPath_of_ofJson?

end Destination

namespace Row

def HasPaths (row : Row) : Prop :=
  row.source.HasPath ∧ ∀ destination ∈ row.destinations, destination.HasPath

def codec : Codec Row := ⟨toJson, ofJson?⟩

theorem ofJson?_toJson {row : Row} (h : row.HasPaths) : ofJson? row.toJson = some row := by
  have fields : row.toJson.fields? ["source", "exclusive", "destinations"] =
      some [some row.source.toJson, some (.bool row.exclusive),
        some (.arr (row.destinations.map Destination.toJson))] := rfl
  have destinations : (row.destinations.map Destination.toJson).mapM Destination.ofJson? =
      some row.destinations := Json.mapM_map fun destination mem =>
    Destination.ofJson?_toJson (h.2 destination mem)
  rw [ofJson?, fields]
  simp only [Option.bind_eq_bind, Option.bind_some, Json.required, Event.ofJson?_toJson h.1,
    Json.bool?, Json.list?, destinations]
  rfl

theorem hasPaths_of_ofJson? {json : Json} {row : Row} (h : ofJson? json = some row) :
    row.HasPaths := by
  rw [ofJson?] at h
  obtain ⟨fields, _, h⟩ := Option.bind_eq_some_iff.mp h
  split at h
  · next source exclusive destinations =>
    obtain ⟨event, readSource, h⟩ := Option.bind_eq_some_iff.mp h
    obtain ⟨flag, _, h⟩ := Option.bind_eq_some_iff.mp h
    obtain ⟨values, readValues, h⟩ := Option.bind_eq_some_iff.mp h
    obtain rfl := Option.some.inj h
    obtain ⟨value, _, ofJson⟩ := Option.bind_eq_some_iff.mp readSource
    refine ⟨Event.hasPath_of_ofJson? ofJson, fun destination mem => ?_⟩
    obtain ⟨array, _, readArray⟩ := Option.bind_eq_some_iff.mp readValues
    cases array with
    | arr items =>
      obtain ⟨item, _, readItem⟩ := Json.exists_of_mem_mapM readArray destination mem
      exact Destination.hasPath_of_ofJson? readItem
    | _ => cases readArray
  · cases h

theorem isPlain_toJson (row : Row) : row.toJson.isPlain = true := by
  have destinations : Json.arePlain (row.destinations.map Destination.toJson) = true :=
    Json.arePlain_map fun _ => rfl
  show (true && (true && (Json.arePlain _ && true))) = true
  rw [destinations]
  rfl

theorem codec_lossless : codec.Lossless HasPaths :=
  .of_values isPlain_toJson (fun _ => ofJson?_toJson) fun _ _ => hasPaths_of_ofJson?

example : codec.ofText? " [\"start:\\u0061\", true, []] " = some ⟨⟨.start, "a"⟩, true, []⟩ := by
  decide +kernel

end Row

/-! ## States -/

namespace State

def codec : Codec State := ⟨toJson, ofJson?⟩

theorem codec_lossless : codec.Lossless fun _ => True :=
  .of_values isPlain_toJson (fun state _ => ofJson?_toJson state) fun _ _ _ => trivial

example : codec.text ⟨["start:a\"b\\", "\n\x01é"]⟩ =
    "[\"start:a\\\"b\\\\\",\"\\n\\u0001é\"]" := by
  decide +kernel

/-- The state after it was put away as text, if it was. -/
def putAway (stored : Bool) (state : State) : Option State :=
  if stored then codec.ofText? (codec.text state) else some state

theorem putAway_eq (stored : Bool) (state : State) : state.putAway stored = some state := by
  cases stored with
  | false => rfl
  | true => exact codec_lossless.ofText?_text state trivial

end State

/-! ## Runs -/

namespace Flow

/-- Call the flow once for each mark, whatever comes back. Where the mark says so, the state is put
away as text before the call. A run whose state cannot be read back is lost. -/
def storedCalls (flow : Flow σ ε) :
    (marks : List Bool) → Instance σ → Option (List (CallResult ε × Instance σ))
  | [], _ => some []
  | stored :: marks, inst => do
    let state ← inst.state.putAway stored
    let (result, next) := flow.call ⟨state, inst.context⟩
    return (result, next) :: (← flow.storedCalls marks next)

/-- Drive the flow with one call at most for each mark, and put the state away before it as
`storedCalls` does. Whether the flow is completed is asked of the state that was read back. -/
def storedDrive (flow : Flow σ ε) (resubmit : Bool) :
    (marks : List Bool) → Instance σ → Option (List (CallResult ε × Instance σ))
  | [], _ => some []
  | stored :: marks, inst => do
    let state ← inst.state.putAway stored
    if flow.isCompleted state then return []
    else
      match flow.call ⟨state, inst.context⟩ with
      | (.ok state, next) => return (.ok state, next) :: (← flow.storedDrive resubmit marks next)
      | (.error error, next) =>
        if resubmit then return (.error error, next) :: (← flow.storedDrive resubmit marks next)
        else return [(.error error, next)]

theorem storedCalls_eq (flow : Flow σ ε) (marks : List Bool) : ∀ inst : Instance σ,
    flow.storedCalls marks inst = some (flow.calls marks.length inst) := by
  induction marks with
  | nil =>
    intro inst
    rfl
  | cons stored marks ih =>
    intro inst
    simp only [storedCalls, State.putAway_eq, Option.bind_eq_bind, Option.bind_some, ih]
    rfl

theorem storedDrive_eq (flow : Flow σ ε) (resubmit : Bool) (marks : List Bool) :
    ∀ inst : Instance σ,
    flow.storedDrive resubmit marks inst = some (flow.drive resubmit marks.length inst) := by
  induction marks with
  | nil =>
    intro inst
    rfl
  | cons stored marks ih =>
    intro inst
    simp only [storedDrive, State.putAway_eq, Option.bind_eq_bind, Option.bind_some, ih,
      List.length_cons, drive]
    by_cases done : flow.isCompleted inst.state = true
    · rw [if_pos done, if_pos done]
      rfl
    · rw [if_neg done, if_neg done]
      rcases flow.call inst with ⟨error | state, next⟩
      · cases resubmit <;> rfl
      · rfl

end Flow

/-- All stored forms are lossless, and storing the state between the calls of a run changes nothing
in the run. -/
theorem stored_losslessly :
    State.codec.Lossless (fun _ => True) ∧ Event.codec.Lossless Event.HasPath ∧
    Destination.codec.Lossless Destination.HasPath ∧ Row.codec.Lossless Row.HasPaths ∧
    ∀ {σ ε : Type} (flow : Flow σ ε) (marks : List Bool) (inst : Instance σ),
      flow.storedCalls marks inst = some (flow.calls marks.length inst) ∧
      ∀ resubmit,
        flow.storedDrive resubmit marks inst = some (flow.drive resubmit marks.length inst) :=
  ⟨State.codec_lossless, Event.codec_lossless, Destination.codec_lossless, Row.codec_lossless,
    fun flow marks inst => ⟨flow.storedCalls_eq marks inst,
      fun resubmit => flow.storedDrive_eq resubmit marks inst⟩⟩

end ResumableFlow
