import ResumableFlow.Console.Directory

/-!
# Hosts

What a command needs from the machine it runs on: files by path, a place to print to and a pause. A
command is written once for any host. Run on a desk, which is a directory together with what was
printed, it is a function.
-/

namespace ResumableFlow
namespace Console

/-- The services that a command runs on. Writing and renaming answer whether they succeeded. -/
structure Host (m : Type → Type) where
  read : String → m (Except PathFailure String)
  write : (path content : String) → m Bool
  rename : (source target : String) → m Bool
  print : String → m Unit
  pause : (milliseconds : Nat) → m Unit

structure Desk where
  directory : Directory
  printed : String := ""

namespace Desk

/-- Change the directory if that is possible, and answer whether it was. -/
def attempt (change : Directory → Except PathFailure Directory) : StateM Desk Bool := fun desk =>
  match change desk.directory with
  | .ok directory => (true, { desk with directory })
  | .error _ => (false, desk)

/-- The host that works on a desk. Pauses take no time there. -/
def host : Host (StateM Desk) where
  read path := fun desk => (desk.directory.read path, desk)
  write path content := attempt (·.write path content.toUTF8)
  rename source target := attempt (·.rename source target)
  print text := fun desk => ((), { desk with printed := desk.printed ++ text })
  pause _ := pure ()

end Desk

end Console
end ResumableFlow
