import ResumableFlow.Proofs.StoredForms

/-!
# Storing documents

Where a document is written to and where it ends up does not depend on the document. If one
document can be stored at a path, then so can any other one, there and then as well as later
(`Directory.StoresAt.saveTo`, `Directory.StoresAt.stored`), the last one stored is the one that is
loaded, and those before it leave no trace (`Directory.stored_stored`).

To locate a path, folders are visited and nothing else. Storing keeps them, for neither of the two
places that it writes to is a folder.
-/

namespace ResumableFlow

theorem Console.Entry.text?_toUTF8 (content : String) :
    (Entry.file content.toUTF8).text? = some content := dif_pos content.isValidUTF8

namespace Console.Directory

variable {directory : Directory} {place other : Place} {entry : Entry}

/-! ## Entries -/

theorem lookup_filter_ne (entries : List (Place × Entry)) (h : other ≠ place) :
    (entries.filter (·.1 != place)).lookup other = entries.lookup other := by
  induction entries with
  | nil => rfl
  | cons head entries ih =>
    obtain ⟨key, value⟩ := head
    by_cases dropped : key = place
    · have differs : (other == key) = false := by
        rw [dropped]
        simpa using h
      rw [List.filter_cons_of_neg (by simpa using dropped), ih, List.lookup_cons, differs]
    · rw [List.filter_cons_of_pos (by simpa using dropped), List.lookup_cons, List.lookup_cons, ih]

theorem entry?_erase_of_ne (h : other ≠ place) :
    entry? (directory.erase place) other = directory.entry? other := by
  rw [ entry?, entry?, erase, lookup_filter_ne _ h]

theorem entry?_insert_of_ne (h : other ≠ place) :
    entry? (directory.insert place entry) other = directory.entry? other := by
  have differs : (other == place) = false := by simpa using h
  rw [ entry?, insert, List.lookup_cons, differs]
  exact entry?_erase_of_ne h

/-- A place that is no folder is not on the way to the directory. -/
theorem not_isPrefixOf_home (free : directory.entry? place ≠ some .folder) :
    ¬place.isPrefixOf directory.home = true := by
  intro around
  rw [ entry?, if_pos around] at free
  exact free rfl

theorem entry?_insert_self (free : directory.entry? place ≠ some .folder) :
    entry? (directory.insert place entry) place = some entry := by
  have apart := not_isPrefixOf_home free
  rw [ entry?, insert, if_neg apart, List.lookup_cons_self]

theorem entry?_erase_self (free : directory.entry? place ≠ some .folder) :
    entry? (directory.erase place) place = none := by
  have apart := not_isPrefixOf_home free
  rw [ entry?, erase, if_neg apart, List.lookup_eq_none_iff]
  intro member mem
  have kept := (List.mem_filter.mp mem).2
  rw [bne_iff_ne] at kept
  simpa using kept.symm

theorem erase_insert (directory : Directory) (place : Place) (entry : Entry) :
    (directory.insert place entry).erase place = directory.erase place := by
  simp only [insert, erase, List.filter_cons, bne_self_eq_false, Bool.false_eq_true, if_false,
    List.filter_filter, Bool.and_self]

/-! ## Paths -/

/-- The other directory lies where the directory does, whose folders are folders there, too. -/
structure FoldersKept (directory other : Directory) : Prop where
  home : other.home = directory.home
  folder : ∀ place, directory.entry? place = some .folder → other.entry? place = some .folder

theorem FoldersKept.insert (free : directory.entry? place ≠ some .folder) :
    directory.FoldersKept (directory.insert place entry) where
  home := rfl
  folder := by
    intro visited folder
    have differs : visited ≠ place := by
      rintro rfl
      exact free folder
    rw [ entry?_insert_of_ne differs, folder]

/-- No folder comes with a file. -/
theorem FoldersKept.of_insert (free : directory.entry? place ≠ some .folder)
    {content : ByteArray} :
    (directory.insert place (.file content)).FoldersKept directory where
  home := rfl
  folder := by
    intro visited folder
    have differs : visited ≠ place := by
      rintro rfl
      rw [ entry?_insert_self free] at folder
      cases folder
    rwa [entry?_insert_of_ne differs] at folder

theorem FoldersKept.erase (free : directory.entry? place ≠ some .folder) :
    directory.FoldersKept (directory.erase place) where
  home := rfl
  folder := by
    intro visited folder
    have differs : visited ≠ place := by
      rintro rfl
      exact free folder
    rw [ entry?_erase_of_ne differs, folder]

theorem FoldersKept.trans {a b c : Directory} (h : a.FoldersKept b) (next : b.FoldersKept c) :
    a.FoldersKept c :=
  ⟨next.home.trans h.home, fun place folder => next.folder place (h.folder place folder)⟩

theorem FoldersKept.origin_eq {kept : Directory} (h : directory.FoldersKept kept) (path : String) :
    kept.origin path = directory.origin path := by
  rw [Directory.origin, Directory.origin, h.home]

theorem FoldersKept.walk {kept : Directory} (h : directory.FoldersKept kept) :
    ∀ {names : List String} {place target : Place}, directory.walk place names = .ok target →
      kept.walk place names = .ok target
  | [], _, _, walked => walked
  | name :: names, place, target, walked => by
    rw [Directory.walk] at walked ⊢
    rcases standing : directory.entry? place with _ | _ | _ <;> rw [standing] at walked
    · cases walked
    · cases walked
    · rw [h.folder place standing]
      simp only at walked ⊢
      by_cases long : nameLimit < name.utf8ByteSize
      · rw [if_pos long] at walked
        cases walked
      · rw [if_neg long] at walked ⊢
        exact h.walk walked

theorem FoldersKept.locate {kept : Directory} (h : directory.FoldersKept kept) {path : String}
    {target : Place} (located : directory.locate path = .ok target) :
    kept.locate path = .ok target := by
  unfold Directory.locate at located ⊢
  by_cases empty : path.isEmpty = true
  · rw [if_pos empty] at located
    cases located
  rw [if_neg empty] at located ⊢
  by_cases long : pathLimit ≤ path.utf8ByteSize
  · rw [if_pos long] at located
    cases located
  rw [if_neg long] at located ⊢
  rw [h.origin_eq]
  exact h.walk located

/-! ## Files -/

section files

variable {path source target : String} {sourcePlace targetPlace : Place} {content : ByteArray}

theorem find_of_locate (located : directory.locate path = .ok place)
    (standing : directory.entry? place = some entry) : directory.find path = .ok entry := by
  simp only [find, located, bind, Except.bind, standing]

theorem read_of_find {text : String} (found : directory.find path = .ok entry)
    (isText : entry.text? = some text) : directory.read path = .ok text := by
  simp only [read, found, bind, Except.bind, isText, Option.elim_some]

theorem write_of_free (located : directory.locate path = .ok place)
    (free : directory.entry? place ≠ some .folder) :
    directory.write path content = .ok (directory.insert place (.file content)) := by
  simp only [write, located, bind, Except.bind]

theorem write_eq_ok {written : Directory} (h : directory.write path content = .ok written) :
    ∃ place, directory.locate path = .ok place ∧ directory.entry? place ≠ some .folder ∧
      written = directory.insert place (.file content) := by
  rcases located : directory.locate path with failure | place
  · rw [write, located] at h
    cases h
  · have free : directory.entry? place ≠ some .folder := by
      intro folder
      simp only [write, located, bind, Except.bind, folder] at h
      cases h
    rw [write_of_free located free] at h
    exact ⟨place, rfl, free, (Except.ok.inj h).symm⟩

theorem rename_of_free (locatedSource : directory.locate source = .ok sourcePlace)
    (file : directory.entry? sourcePlace = some (.file content))
    (locatedTarget : directory.locate target = .ok targetPlace)
    (free : directory.entry? targetPlace ≠ some .folder) :
    directory.rename source target =
      .ok ((directory.erase sourcePlace).insert targetPlace (.file content)) := by
  simp only [rename, locatedSource, locatedTarget, bind, Except.bind, file]

theorem rename_eq_ok {renamed : Directory} (h : directory.rename source target = .ok renamed) :
    ∃ place, directory.locate target = .ok place ∧ directory.entry? place ≠ some .folder := by
  rcases locatedSource : directory.locate source with _ | sourcePlace
  · simp only [rename, locatedSource, bind, Except.bind] at h
    cases h
  rcases locatedTarget : directory.locate target with _ | targetPlace
  · simp only [rename, locatedSource, locatedTarget, bind, Except.bind] at h
    cases h
  refine ⟨targetPlace, rfl, fun folder => ?_⟩
  simp only [rename, locatedSource, locatedTarget, bind, Except.bind, folder] at h
  cases h

end files

/-! ## Places of a stored file -/

/-- A file with the path can be stored by way of its temporary sibling: these are the places of the
two, and neither is a folder. -/
structure StoresAt (directory : Directory) (path : String) (temporary target : Place) : Prop where
  locates_temporary : directory.locate (temporaryPath path) = .ok temporary
  locates_target : directory.locate path = .ok target
  free_temporary : directory.entry? temporary ≠ some .folder
  free_target : directory.entry? target ≠ some .folder

/-- The directory with the content at the target, and nothing more at the temporary place. -/
def stored (directory : Directory) (temporary target : Place) (content : String) : Directory :=
  (directory.erase temporary).insert target (.file content.toUTF8)

/-- What was stored before leaves no trace. -/
theorem stored_stored (directory : Directory) (temporary target : Place) (first last : String) :
    (directory.stored temporary target first).stored temporary target last =
      directory.stored temporary target last := by
  by_cases same : target = temporary
  · rw [same, stored, stored, stored, erase_insert]
    simp only [erase, List.filter_filter, Bool.and_self]
  · have kept : ((target, Entry.file first.toUTF8).1 != temporary) = true := by simpa using same
    simp only [stored, insert, erase, List.filter_cons, kept, if_true, bne_self_eq_false,
      Bool.false_eq_true, if_false, List.filter_filter]
    congr 2
    apply List.filter_congr
    intro member _
    cases member.1 != target <;> cases member.1 != temporary <;> rfl

namespace StoresAt

variable {path : String} {temporary target : Place} {content : String}

theorem free_erased (h : directory.StoresAt path temporary target) :
    entry? (directory.erase temporary) target ≠ some .folder := by
  by_cases same : target = temporary
  · rw [same, entry?_erase_self h.free_temporary]
    exact nofun
  · rw [ entry?_erase_of_ne same]
    exact h.free_target

theorem foldersKept (h : directory.StoresAt path temporary target) :
    directory.FoldersKept (directory.stored temporary target content) :=
  (FoldersKept.erase h.free_temporary).trans (.insert h.free_erased)

theorem entry?_stored (h : directory.StoresAt path temporary target) :
    entry? (directory.stored temporary target content) target = some (.file content.toUTF8) :=
  entry?_insert_self h.free_erased

/-- What is stored can be stored anew. -/
theorem stored (h : directory.StoresAt path temporary target) :
    (directory.stored temporary target content).StoresAt path temporary target where
  locates_temporary := h.foldersKept.locate h.locates_temporary
  locates_target := h.foldersKept.locate h.locates_target
  free_temporary := by
    by_cases same : temporary = target
    · subst same
      rw [h.entry?_stored]
      exact nofun
    · rw [Directory.stored, entry?_insert_of_ne same, entry?_erase_self h.free_temporary]
      exact nofun
  free_target := by
    rw [h.entry?_stored]
    exact nofun

theorem read_stored (h : directory.StoresAt path temporary target) :
    (directory.stored temporary target content).read path = .ok content :=
  read_of_find (find_of_locate (h.foldersKept.locate h.locates_target) h.entry?_stored)
    (Entry.text?_toUTF8 content)

end StoresAt

end Console.Directory

/-! ## Programs on a desk -/

namespace Console.Desk

theorem bind_eq {α β : Type} {first : StateM Desk α} {next : α → StateM Desk β} {desk after : Desk}
    {value : α} (h : first desk = (value, after)) : (first >>= next) desk = next value after := by
  show next (first desk).1 (first desk).2 = _
  rw [h]

theorem read_host (path : String) (desk : Desk) :
    host.read path desk = (desk.directory.read path, desk) := rfl

theorem print_host (text : String) (desk : Desk) :
    host.print text desk = ((), { desk with printed := desk.printed ++ text }) := rfl

theorem attempt_ok (change : Directory → Except PathFailure Directory) (desk : Desk)
    {directory : Directory} (h : change desk.directory = .ok directory) :
    attempt change desk = (true, { desk with directory }) := by
  rw [attempt, h]

theorem attempt_error (change : Directory → Except PathFailure Directory) (desk : Desk)
    {failure : PathFailure} (h : change desk.directory = .error failure) :
    attempt change desk = (false, desk) := by
  rw [attempt, h]

section host

variable {path content source target : String} (desk : Desk) {directory : Directory}
  {failure : PathFailure}

theorem write_ok (h : desk.directory.write path content.toUTF8 = .ok directory) :
    host.write path content desk = (true, { desk with directory }) :=
  attempt_ok (·.write path content.toUTF8) desk h

theorem write_error (h : desk.directory.write path content.toUTF8 = .error failure) :
    host.write path content desk = (false, desk) :=
  attempt_error (·.write path content.toUTF8) desk h

theorem rename_ok (h : desk.directory.rename source target = .ok directory) :
    host.rename source target desk = (true, { desk with directory }) :=
  attempt_ok (·.rename source target) desk h

theorem rename_error (h : desk.directory.rename source target = .error failure) :
    host.rename source target desk = (false, desk) :=
  attempt_error (·.rename source target) desk h

end host

end Console.Desk

/-! ## Documents in a directory -/

namespace Document

open Console

/-- The document that a path leads to. -/
def loadFrom (directory : Directory) (path : String) : Except StorageError Document :=
  match directory.read path with
  | .ok text =>
    match ofText? text with
    | some document => .ok document
    | none => .error (.invalid path)
  | .error .missing => .ok {}
  | .error .blocked => .error (.unreadable path)

/-- The directory after an attempt to store the document, and whether that succeeded. -/
def saveTo (directory : Directory) (path : String) (document : Document) :
    Except StorageError Unit × Directory :=
  match directory.write (temporaryPath path) document.text.toUTF8 with
  | .error _ => (.error (.unwritable (temporaryPath path)), directory)
  | .ok written =>
    match written.rename (temporaryPath path) path with
    | .error _ => (.error (.irreplaceable path), written)
    | .ok directory => (.ok (), directory)

/-- On a desk, documents are loaded from its directory. -/
theorem load_desk (path : String) (desk : Desk) :
    load Desk.host path desk = (loadFrom desk.directory path, desk) := by
  rw [load, Desk.bind_eq (Desk.read_host path desk), loadFrom]
  rcases desk.directory.read path with (_ | _) | text
  · rfl
  · rfl
  · simp only
    rcases ofText? text with _ | document <;> rfl

/-- On a desk, documents are stored in its directory. -/
theorem save_desk (path : String) (document : Document) (desk : Desk) :
    save Desk.host path document desk = ((saveTo desk.directory path document).1,
      { desk with directory := (saveTo desk.directory path document).2 }) := by
  unfold save saveTo
  generalize document.text = text
  rcases wrote : desk.directory.write (temporaryPath path) text.toUTF8 with _ | written
  · exact Desk.bind_eq (Desk.write_error desk wrote)
  rw [Desk.bind_eq (Desk.write_ok desk wrote), if_pos rfl]
  simp only
  rcases renamed : written.rename (temporaryPath path) path with _ | replaced
  · exact Desk.bind_eq (Desk.rename_error { desk with directory := written } renamed)
  · exact Desk.bind_eq (Desk.rename_ok { desk with directory := written } renamed)

end Document

/-! ## Storing -/

namespace Console.Directory.StoresAt

open Document

variable {directory : Directory} {path : String} {temporary target : Place}

theorem saveTo (h : directory.StoresAt path temporary target) (document : Document) :
    saveTo directory path document = (.ok (), directory.stored temporary target document.text) := by
  have kept : directory.FoldersKept (directory.insert temporary (.file document.text.toUTF8)) :=
    .insert h.free_temporary
  have free : entry? (directory.insert temporary (.file document.text.toUTF8)) target ≠
      some .folder := by
    by_cases same : target = temporary
    · rw [same, entry?_insert_self h.free_temporary]
      exact nofun
    · rw [ entry?_insert_of_ne same]
      exact h.free_target
  have wrote : directory.write (temporaryPath path) document.text.toUTF8 =
      .ok (directory.insert temporary (.file document.text.toUTF8)) :=
    write_of_free h.locates_temporary h.free_temporary
  have renamed := rename_of_free (kept.locate h.locates_temporary)
    (entry?_insert_self h.free_temporary) (kept.locate h.locates_target) free
  simp only [Document.saveTo, wrote, renamed]
  rw [erase_insert]
  rfl

theorem loadFrom_stored (h : directory.StoresAt path temporary target) (document : Document) :
    loadFrom (directory.stored temporary target document.text) path = .ok document := by
  rw [loadFrom, h.read_stored]
  simp only [ofText?_text]

end Console.Directory.StoresAt

/-- A document can only be stored at a path that has its places. -/
theorem Document.storesAt_of_saveTo {directory : Console.Directory} {path : String}
    {document : Document} (saved : (saveTo directory path document).1 = .ok ()) :
    ∃ temporary target, directory.StoresAt path temporary target := by
  rw [saveTo] at saved
  rcases wrote : directory.write (Console.temporaryPath path) document.text.toUTF8 with
    _ | written <;> rw [wrote] at saved
  · cases saved
  simp only at saved
  rcases renamed : written.rename (Console.temporaryPath path) path with _ | replaced <;>
    rw [renamed] at saved
  · cases saved
  obtain ⟨temporary, located, free, rfl⟩ := Console.Directory.write_eq_ok wrote
  obtain ⟨target, locatedTarget, freeTarget⟩ := Console.Directory.rename_eq_ok renamed
  have kept : (directory.insert temporary (.file document.text.toUTF8)).FoldersKept directory :=
    .of_insert free
  refine ⟨temporary, target, located, kept.locate locatedTarget, free, fun folder => ?_⟩
  exact freeTarget ((Console.Directory.FoldersKept.insert free).folder target folder)

end ResumableFlow
