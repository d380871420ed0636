import ResumableFlow.Text.Hidden

/-!
# Texts in quotes

How a name or an id is shown inside a message: between double quotes, with a backslash before each
quote and backslash, the common controls by their letters, and every other character without a
visible form by its number.
-/

namespace ResumableFlow
namespace Text

def quotedChar (c : Char) : List Char :=
  if c = '\x00' then ['\\', '0']
  else if c = '\t' then ['\\', 't']
  else if c = '\n' then ['\\', 'n']
  else if c = '\r' then ['\\', 'r']
  else if c = '"' then ['\\', '"']
  else if c = '\\' then ['\\', '\\']
  else if isHidden c then ['\\', 'u', '{'] ++ Nat.toDigits 16 c.toNat ++ ['}']
  else [c]

def quoted (text : String) : String :=
  String.ofList ('"' :: text.toList.flatMap quotedChar ++ ['"'])

end Text
end ResumableFlow
