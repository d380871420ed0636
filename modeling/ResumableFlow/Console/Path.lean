import ResumableFlow.Console.Directory

/-!
# Temporary siblings

The path of the file that a stored file is written to before it takes the place of the old one. It
lies in the same folder, so that the last step is a renaming.
-/

namespace ResumableFlow
namespace Console

/-- The segments without those at the end that lead nowhere. -/
def dropIdle (segments : List String) : List String :=
  (segments.reverse.dropWhile fun segment => segment == "" || segment == ".").reverse

/-- The path with `.tmp` added to the file name. A path without a file name, such as one that ends
with two dots, gets the name `.tmp` below it. -/
def temporaryPath (path : String) : String :=
  let (first, rest) := match Directory.segments path with
    | first :: rest => (first, dropIdle rest)
    | [] => ("", [])
  match rest.getLast? with
  | some name =>
    if name = ".." then below path
    else "/".intercalate (first :: dropIdle rest.dropLast) ++ "/" ++ name ++ ".tmp"
  | none =>
    if first = "" ∨ first = "." ∨ first = ".." then below path else first ++ ".tmp"
where
  below (path : String) : String :=
    if path.toList.getLast? = some '/' then path ++ ".tmp" else path ++ "/.tmp"

end Console
end ResumableFlow
