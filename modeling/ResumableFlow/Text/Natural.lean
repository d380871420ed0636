/-!
# Natural numbers in text

Reading of digits, decimal or to another base, and of decimal numbers with a bound: settings and
options hold numbers below 2^64.
-/

namespace ResumableFlow
namespace Natural

/-- The value of a text of decimal digits. The empty text and any text with another character have
none. -/
def ofDigits? (text : List Char) : Option Nat :=
  if text ≠ [] ∧ text.all Char.isDigit then some (Nat.ofDigitChars 10 text 0) else none

/-- The value of a digit to a base of at most sixteen. -/
def digit? (base : Nat) (c : Char) : Option Nat :=
  let value :=
    if '0' ≤ c ∧ c ≤ '9' then some (c.toNat - '0'.toNat)
    else if 'a' ≤ c ∧ c ≤ 'f' then some (c.toNat - 'a'.toNat + 10)
    else if 'A' ≤ c ∧ c ≤ 'F' then some (c.toNat - 'A'.toNat + 10)
    else none
  value.filter (· < base)

/-- The value of a text of digits to a base. The empty text has none. -/
def ofDigitsTo? (base : Nat) (text : List Char) : Option Nat :=
  if text.isEmpty then none
  else text.foldlM (fun value c => (digit? base c).map (value * base + ·)) 0

/-- The text without one plus sign at its start. -/
def withoutPlus : List Char → List Char
  | '+' :: rest => rest
  | text => text

/-- The value of decimal digits after an optional plus sign, if it is below 2^64. -/
def ofText? (text : String) : Option Nat :=
  (ofDigits? (withoutPlus text.toList)).filter (· < 0x10000000000000000)

end Natural
end ResumableFlow
