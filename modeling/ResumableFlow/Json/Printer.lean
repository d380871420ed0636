import ResumableFlow.Json.Basic

/-!
# Writing JSON

A value is written in one line without blanks, or with one member or item a line, indented by two
spaces for each level. Texts are written raw but for quotes, backslashes and controls.
-/

namespace ResumableFlow
namespace Json

/-! ## Texts -/

def hexByte (code : Nat) : List Char := [Nat.digitChar (code / 16), Nat.digitChar (code % 16)]

def escapedChar (c : Char) : List Char :=
  if c = '"' then ['\\', '"']
  else if c = '\\' then ['\\', '\\']
  else if c = '\x08' then ['\\', 'b']
  else if c = '\t' then ['\\', 't']
  else if c = '\n' then ['\\', 'n']
  else if c = '\x0c' then ['\\', 'f']
  else if c = '\r' then ['\\', 'r']
  else if c.toNat < 0x20 then ['\\', 'u', '0', '0'] ++ hexByte c.toNat
  else [c]

def textChars (text : String) : List Char :=
  '"' :: text.toList.flatMap escapedChar ++ ['"']

/-! ## Values -/

/-- How a value is laid out: in one line, or over several lines from a level of indentation on. -/
inductive Layout where
  | compact
  | indented (level : Nat)

namespace Layout

/-- The layout of what lies inside a value. -/
def inner : Layout → Layout
  | compact => compact
  | indented level => indented (level + 1)

/-- What stands before an item, a member and a closing bracket. -/
def gap : Layout → List Char
  | compact => []
  | indented level => '\n' :: List.replicate (2 * level) ' '

/-- What stands between a name and its value. -/
def colon : Layout → List Char
  | compact => [':']
  | indented _ => [':', ' ']

end Layout

mutual

def chars (layout : Layout) : Json → List Char
  | null => ['n', 'u', 'l', 'l']
  | bool true => ['t', 'r', 'u', 'e']
  | bool false => ['f', 'a', 'l', 's', 'e']
  | nat value => Nat.toDigits 10 value
  | str text => textChars text
  | arr [] => ['[', ']']
  | arr (item :: items) =>
    '[' :: layout.inner.gap ++ item.chars layout.inner ++ itemChars layout.inner items ++
      layout.gap ++ [']']
  | obj [] => ['{', '}']
  | obj ((name, value) :: members) =>
    '{' :: layout.inner.gap ++ textChars name ++ layout.colon ++ value.chars layout.inner ++
      memberChars layout.inner members ++ layout.gap ++ ['}']
  | other => ['n', 'u', 'l', 'l']

/-- The items after the first one. -/
def itemChars (layout : Layout) : List Json → List Char
  | [] => []
  | item :: items => ',' :: layout.gap ++ item.chars layout ++ itemChars layout items

/-- The members after the first one. -/
def memberChars (layout : Layout) : List (String × Json) → List Char
  | [] => []
  | (name, value) :: members =>
    ',' :: layout.gap ++ textChars name ++ layout.colon ++ value.chars layout ++
      memberChars layout members

end

/-- The value in one line without blanks. -/
def compact (value : Json) : String := String.ofList (value.chars .compact)

/-- The value over several lines, indented by two spaces for each level. -/
def pretty (value : Json) : String := String.ofList (value.chars (.indented 0))

end Json
end ResumableFlow
