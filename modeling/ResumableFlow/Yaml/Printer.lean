import ResumableFlow.Json.Basic
import ResumableFlow.Yaml.Scalar

/-!
# Writing YAML

A value is written in block form: one member or item a line, the members of an object within another
one indented by two spaces, the items of an array at the column of the name they belong to. Empty
arrays and objects are written with brackets.
-/

namespace ResumableFlow
namespace Yaml

def closeLine (chars : List Char) : List Char :=
  if chars.getLast?.any isBreak then chars else chars ++ ['\n']

def margin (indent : Nat) : List Char := List.replicate indent ' '

mutual

/-- The lines of a value that begins in the column `indent`, without the
margin of the first line. -/
def lines (indent : Nat) : Json → List Char
  | .null => "null\n".toList
  | .bool true => "true\n".toList
  | .bool false => "false\n".toList
  | .nat value => Nat.toDigits 10 value ++ ['\n']
  | .str value => closeLine (text indent value.toList)
  | .arr [] => "[]\n".toList
  | .arr (item :: items) => '-' :: ' ' :: lines (indent + 2) item ++ itemLines indent items
  | .obj [] => "\x7b\x7d\n".toList
  | .obj ((name, value) :: members) =>
    text indent name.toList ++ ':' :: memberLines indent value ++ objectLines indent members
  | .other => "null\n".toList

/-- The value of a member of an object in the column `indent`: on the line of the name, or, for an
array or object that is not empty, on the lines below it. -/
def memberLines (indent : Nat) : Json → List Char
  | .arr (item :: items) =>
    '\n' :: margin indent ++ '-' :: ' ' :: lines (indent + 2) item ++ itemLines indent items
  | .obj ((name, value) :: members) =>
    '\n' :: margin (indent + 2) ++ text (indent + 2) name.toList ++ ':' ::
      memberLines (indent + 2) value ++ objectLines (indent + 2) members
  | value => ' ' :: lines (indent + 2) value

/-- The items of an array after its first one. -/
def itemLines (indent : Nat) : List Json → List Char
  | [] => []
  | item :: items =>
    margin indent ++ '-' :: ' ' :: lines (indent + 2) item ++ itemLines indent items

/-- The members of an object after its first one. -/
def objectLines (indent : Nat) : List (String × Json) → List Char
  | [] => []
  | (name, value) :: members =>
    margin indent ++ text indent name.toList ++ ':' :: memberLines indent value ++
      objectLines indent members

end

def render (value : Json) : String := String.ofList (lines 0 value)

end Yaml
end ResumableFlow
