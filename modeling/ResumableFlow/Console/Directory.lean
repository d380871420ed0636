/-!
# Directories

The directory that a program works in, as a value: where it lies, and the files and folders in it
and elsewhere, each at its place from the root. Paths are walked one name after the other, and every
name is looked up in the folder that was reached before it. Relative paths begin in the directory,
absolute ones at the root. Two dots lead to the enclosing folder.

Files hold bytes, and there are no links: a file stands at one place, and what is written to that
place changes what stands at no other one. What is proved of directories is therefore said of those
in which no name links to a file or a folder elsewhere.
-/

namespace ResumableFlow
namespace Console

/-- What stands at a place: a file with its bytes, or a folder. Links to
other places are left out. -/
inductive Entry where
  | file (content : ByteArray)
  | folder

/-- The text of a file, if its bytes are one. -/
def Entry.text? : Entry → Option String
  | .file content => String.fromUTF8? content
  | .folder => none

/-- The names that lead to an entry from the root. -/
abbrev Place := List String

/-- Why a path cannot be used. -/
inductive PathFailure where
  /-- Nothing stands there. -/
  | missing
  /-- Something else stands there than the path is used for, or in the way. -/
  | blocked
  deriving DecidableEq, Repr

structure Directory where
  /-- The place of the directory itself. -/
  home : Place := ["home"]
  /-- The entries at places anywhere. -/
  entries : List (Place × Entry) := []

namespace Directory

/-! ## Entries -/

/-- What stands at a place. The directory itself and the folders around it are folders. -/
def entry? (directory : Directory) (place : Place) : Option Entry :=
  if place.isPrefixOf directory.home then some .folder else directory.entries.lookup place

/-- The directory without the entry at a place. -/
def erase (directory : Directory) (place : Place) : Directory :=
  { directory with entries := directory.entries.filter (·.1 != place) }

/-- The directory with an entry at a place, in place of what stood there. -/
def insert (directory : Directory) (place : Place) (entry : Entry) : Directory :=
  { directory with entries := (place, entry) :: (directory.erase place).entries }

/-- The files of text in the directory, by their paths from there. -/
def files (directory : Directory) : List (String × String) :=
  directory.entries.filterMap fun (place, entry) =>
    if directory.home.isPrefixOf place then
      entry.text?.map ("/".intercalate (place.drop directory.home.length), ·)
    else none

/-! ## Paths -/

/-- The number of bytes that a name may have at most. -/
def nameLimit : Nat := 255

/-- The number of bytes that a path stays below. -/
def pathLimit : Nat := 4096

def segments (path : String) : List String := (path.toList.splitOn '/').map String.ofList

/-- The place that one segment leads to from a folder. Nothing is above the root. -/
def step (place : Place) (segment : String) : Place :=
  if segment = "" ∨ segment = "." then place
  else if segment = ".." then place.dropLast
  else place ++ [segment]

/-- The place that segments lead to from a place. -/
def walk (directory : Directory) : Place → List String → Except PathFailure Place
  | place, [] => .ok place
  | place, segment :: rest =>
    match directory.entry? place with
    | none => .error .missing
    | some (.file _) => .error .blocked
    | some .folder =>
      if nameLimit < segment.utf8ByteSize then .error .blocked
      else directory.walk (step place segment) rest

/-- The place that a path begins at. A path that begins with a slash is absolute. -/
def origin (directory : Directory) (path : String) : Place :=
  if (segments path).head? = some "" then [] else directory.home

/-- The place that a path leads to. -/
def locate (directory : Directory) (path : String) : Except PathFailure Place :=
  if path.isEmpty then .error .missing
  else if pathLimit ≤ path.utf8ByteSize then .error .blocked
  else directory.walk (directory.origin path) (segments path)

/-! ## Files -/

/-- What a path leads to. -/
def find (directory : Directory) (path : String) : Except PathFailure Entry := do
  match directory.entry? (← directory.locate path) with
  | some entry => .ok entry
  | none => .error .missing

/-- The text of the file that a path leads to. -/
def read (directory : Directory) (path : String) : Except PathFailure String := do
  (← directory.find path).text?.elim (.error .blocked) .ok

def write (directory : Directory) (path : String) (content : ByteArray) :
    Except PathFailure Directory := do
  let place ← directory.locate path
  match directory.entry? place with
  | some .folder => .error .blocked
  | _ => .ok (directory.insert place (.file content))

/-- The directory with the file at `source` moved to `target`, in place of a file there. -/
def rename (directory : Directory) (source target : String) : Except PathFailure Directory := do
  let sourcePlace ← directory.locate source
  let targetPlace ← directory.locate target
  match directory.entry? sourcePlace, directory.entry? targetPlace with
  | _, some .folder => .error .blocked
  | some (.file content), _ =>
    .ok ((directory.erase sourcePlace).insert targetPlace (.file content))
  | some .folder, _ => .error .blocked
  | none, _ => .error .missing

/-- A directory with the given files, and folders where the content is `none`. The folders on the
way to each are made as needed. -/
def ofList (contents : List (String × Option String)) : Directory :=
  contents.foldl (fun directory (path, content) =>
    let place := (segments path).foldl step (directory.origin path)
    let around := (List.range place.length).map place.take
    let directory :=
      around.foldl (fun directory folder => directory.insert folder .folder) directory
    directory.insert place (match content with
      | some content => .file content.toUTF8
      | none => .folder)) {}

end Directory

end Console
end ResumableFlow
