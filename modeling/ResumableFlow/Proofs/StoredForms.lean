import ResumableFlow.Deploy.Document
import ResumableFlow.Proofs.JsonRoundTrip

/-!
# Reading stored forms

A record that was written as an object gives its fields back in order (`Json.fields?_zip`). From
this and from the reading of JSON texts, a stored document is read back as it was
(`Document.ofText?_text`).
-/

namespace ResumableFlow

namespace Json

/-! ## Records -/

theorem member?_cons_self {name : String} {value : Json} {members : List (String × Json)}
    (fresh : ∀ member ∈ members, member.1 ≠ name) :
    member? name ((name, value) :: members) = some (some value) := by
  have others : members.filter (·.1 = name) = [] := by
    rw [List.filter_eq_nil_iff]
    intro member mem
    simpa using fresh member mem
  rw [member?, List.filter_cons_of_pos (by simp), others]

theorem member?_cons_of_ne {name other : String} {value : Json} {members : List (String × Json)}
    (h : other ≠ name) : member? name ((other, value) :: members) = member? name members := by
  rw [member?, member?, List.filter_cons_of_neg (by simpa using h)]

/-- A record written with its names gives its fields back. -/
theorem fields?_zip {names : List String} (nodup : names.Nodup) : ∀ {values : List Json},
    names.length = values.length → (obj (names.zip values)).fields? names =
      some (values.map some) := by
  suffices each : ∀ {values : List Json}, names.length = values.length →
      ∀ read : String → Option (Option Json),
        (∀ name ∈ names, read name = member? name (names.zip values)) →
        names.mapM read = some (values.map some) by
    intro values lengths
    exact each lengths _ fun _ _ => rfl
  induction names with
  | nil =>
    intro values lengths read _
    rw [List.length_nil, eq_comm, List.length_eq_zero_iff] at lengths
    rw [lengths]
    rfl
  | cons name names ih =>
    intro values lengths read reads
    obtain _ | ⟨value, values⟩ := values
    · cases lengths
    obtain ⟨fresh, nodup⟩ := List.nodup_cons.mp nodup
    have first : read name = some (some value) := by
      rw [reads name List.mem_cons_self, List.zip_cons_cons]
      apply member?_cons_self
      rintro ⟨other, _⟩ mem rfl
      exact fresh (List.of_mem_zip mem).1
    have rest : names.mapM read = some (values.map some) := by
      refine ih nodup (Nat.succ.inj lengths) read fun other mem => ?_
      rw [reads other (List.mem_cons_of_mem _ mem), List.zip_cons_cons]
      apply member?_cons_of_ne
      rintro rfl
      exact fresh mem
    rw [List.mapM_cons, first, rest]
    rfl

/-! ## Parts of records -/

theorem uint32?_nat (value : UInt32) : uint32? (.nat value.toNat) = some value := by
  rw [uint32?, if_pos value.toNat_lt, UInt32.ofNat_toNat]

theorem optionalText?_getD (text : Option String) :
    optionalText? ((text.map str).getD null) = some text := by
  cases text <;> rfl

section lists

variable {α : Type} {write : α → Json} {values : List α}

/-- Items that are read back one by one are read back together. -/
theorem mapM_map {read : Json → Option α}
    (reads : ∀ value ∈ values, read (write value) = some value) :
    (values.map write).mapM read = some values := by
  induction values with
  | nil => rfl
  | cons value values ih =>
    obtain ⟨first, rest⟩ := List.forall_mem_cons.mp reads
    rw [List.map_cons, List.mapM_cons, first, ih rest]
    rfl

theorem arePlain_map (plain : ∀ value, (write value).isPlain = true) :
    arePlain (values.map write) = true := by
  induction values with
  | nil => rfl
  | cons value values ih => rw [List.map_cons, arePlain, plain, ih, Bool.and_self]

end lists

end Json

/-! ## States, data and documents -/

theorem State.ofJson?_toJson (state : State) : ofJson? state.toJson = some state := by
  have texts : (state.events.map Json.str).mapM Json.text? = some state.events :=
    Json.mapM_map fun _ _ => rfl
  rw [ofJson?, toJson, Json.list?, texts]
  rfl

theorem State.isPlain_toJson (state : State) : state.toJson.isPlain = true :=
  Json.arePlain_map fun _ => rfl

namespace Deployment

theorem ofJson?_toJson (data : Deployment) : ofJson? data.toJson = some data := by
  rw [ofJson?, toJson, Json.fields?_zip (by decide) rfl]
  simp only [List.map_cons, List.map_nil, Option.bind_eq_bind, Option.bind_some, Json.withDefault,
    counter, Json.uint32?_nat, Json.optionalText?_getD, Json.bool?]
  rfl

theorem isPlain_toJson (data : Deployment) : data.toJson.isPlain = true := by
  rcases data with ⟨_ | machine, _, _, _, _, _, _, _⟩ <;> rfl

end Deployment

namespace Document

theorem ofJson?_toJson (document : Document) : ofJson? document.toJson = some document := by
  have fields : document.toJson.fields? ["state", "data"] =
      some [some document.state.toJson, some document.data.toJson] := rfl
  rw [ofJson?, fields]
  simp only [Option.bind_eq_bind, Option.bind_some, Json.withDefault, State.ofJson?_toJson,
    Deployment.ofJson?_toJson]
  rfl

/-- A stored document is read back as it was. -/
theorem ofText?_text (document : Document) : ofText? document.text = some document := by
  have plain : document.toJson.isPlain = true := by
    show (document.state.toJson.isPlain && (document.data.toJson.isPlain && true)) = true
    rw [State.isPlain_toJson, Deployment.isPlain_toJson]
    rfl
  rw [ofText?, text, Json.parse_pretty _ plain, Option.bind_some, ofJson?_toJson]

end Document

end ResumableFlow
