import ResumableFlow.Text.Natural

/-!
# Texts in YAML

A text is written plain where a reader takes it back for the same text. Otherwise it stands between
single quotes, between double quotes with escapes, or, when it has several lines, as a block of its
own lines. Which form it takes hangs on what the text looks like and on the blanks and line breaks
in it.
-/

namespace ResumableFlow
namespace Yaml

/-! ## Texts that look like something else -/

/-- The words for a truth value and for no value. -/
def reservedWords : List String :=
  ["null", "Null", "NULL", "~", "true", "True", "TRUE", "false", "False", "FALSE"]

/-- The least number that is too large for a double: half a step above the largest one. -/
def doubleBound : Nat := Nat.pow 2 1024 - Nat.pow 2 970

/-- Whether `mantissa * 10 ^ exponent` is within the range of doubles. The mantissa is given by its
digits. -/
def fitsDouble (mantissa : List Char) (exponent : Int) : Bool :=
  let value := Nat.ofDigitChars 10 mantissa 0
  let magnitude : Int := (Nat.toDigits 10 value).length + exponent
  if value = 0 ∨ magnitude < 308 then true
  else if 310 < magnitude then false
  else value * Nat.pow 10 exponent.toNat < doubleBound * Nat.pow 10 (-exponent).toNat

/-- The value of an exponent: digits after an optional sign. -/
def exponent? : List Char → Option Int
  | '-' :: digits => (Natural.ofDigits? digits).map fun value => -(value : Int)
  | '+' :: digits => (Natural.ofDigits? digits).map Int.ofNat
  | digits => (Natural.ofDigits? digits).map Int.ofNat

/-- Whether the text is a decimal number without a sign: digits with an optional point among or
around them, an optional exponent, and a value within the range of doubles. -/
def isDecimal (text : List Char) : Bool :=
  let whole := text.takeWhile Char.isDigit
  let rest := text.dropWhile Char.isDigit
  let (fraction, rest) := match rest with
    | '.' :: rest => (rest.takeWhile Char.isDigit, rest.dropWhile Char.isDigit)
    | rest => ([], rest)
  let exponent := match rest with
    | [] => some 0
    | 'e' :: rest => exponent? rest
    | 'E' :: rest => exponent? rest
    | _ => none
  match exponent with
  | some exponent =>
    !(whole ++ fraction).isEmpty && fitsDouble (whole ++ fraction) (exponent - fraction.length)
  | none => false

/-- The value of a number without a sign to a base other than ten. -/
def based? : List Char → Option Nat
  | '0' :: 'x' :: digits => Natural.ofDigitsTo? 16 digits
  | '0' :: 'o' :: digits => Natural.ofDigitsTo? 8 digits
  | '0' :: 'b' :: digits => Natural.ofDigitsTo? 2 digits
  | _ => none

/-- Whether a number with the given sign and magnitude fits 128 bits: with a sign bit if it is
negative, without one otherwise. -/
def fitsWord (negative : Bool) (magnitude : Nat) : Bool :=
  if negative then magnitude ≤ 0x80000000000000000000000000000000
  else magnitude < 0x100000000000000000000000000000000

/-- Whether the text is two digits or more and the first of them is a zero. -/
def isZeroFilled (text : List Char) : Bool :=
  text.head? == some '0' && text.length != 1 && text.all Char.isDigit

/-- Whether a text begins with a minus sign, and the text after its sign. -/
def splitSign : List Char → Bool × List Char
  | '+' :: rest => (false, rest)
  | '-' :: rest => (true, rest)
  | text => (false, text)

/-- Whether a reader takes the text for a number. One that is too large is read as a text again,
except for digits after a zero, which readers do not agree on. -/
def isNumeric (text : List Char) : Bool :=
  let (negative, unsigned) := splitSign text
  isZeroFilled unsigned || isDecimal unsigned || (based? unsigned).any (fitsWord negative) ||
    String.ofList unsigned ∈ [".inf", ".Inf", ".INF"] ||
    String.ofList text ∈ [".nan", ".NaN", ".NAN"]

/-- Whether a reader takes the text for another value than a text. -/
def isAmbiguous (text : List Char) : Bool :=
  text.isEmpty || String.ofList text ∈ reservedWords || isNumeric text

/-! ## Shape -/

def isBreak (c : Char) : Bool :=
  c == '\n' || c == '\r' || c == '\x85' || c == '\u2028' || c == '\u2029'

/-- Whether the character may stand in a text that is not escaped. -/
def isPrintable (c : Char) : Bool :=
  c == '\n' || (0x20 ≤ c.toNat && c.toNat ≤ 0x7e) || (0xa0 ≤ c.toNat && c.toNat ≤ 0xfefe) ||
    (0xff00 ≤ c.toNat && c.toNat ≤ 0xfffd) || 0x10000 ≤ c.toNat

/-- Whether the next character, if there is one, is a blank or ends a line. -/
def beforeBlank : List Char → Bool
  | [] => true
  | c :: _ => c == ' ' || c == '\t' || c == '\x00' || isBreak c

/-- Whether a part of the text after its first character would be taken for structure: a colon
before a blank, or a number sign after one. -/
def indicatesWithin (afterBlank : Bool) : List Char → Bool
  | [] => false
  | c :: rest =>
    (c == ':' && beforeBlank rest) || (c == '#' && afterBlank) ||
      indicatesWithin (beforeBlank [c]) rest

/-- Whether the text would be taken for structure where a plain text may stand. -/
def indicates (text : List Char) : Bool :=
  match text with
  | [] => false
  | c :: rest =>
    text.take 3 == ['-', '-', '-'] || text.take 3 == ['.', '.', '.'] ||
      ['#', ',', '[', ']', '{', '}', '&', '*', '!', '|', '>', '\'', '"', '%', '@',
        '\x60'].contains c ||
      ((c == '?' || c == ':' || c == '-') && beforeBlank rest) ||
      indicatesWithin (beforeBlank [c]) rest

/-- Whether two characters with the given properties stand side by side. -/
def sideBySide (first second : Char → Bool) (text : List Char) : Bool :=
  (text.zip (text.drop 1)).any fun (a, b) => first a && second b

def isSpace (c : Char) : Bool := c == ' '

/-- Whether a line within the text ends with a space. -/
def hasSpaceBeforeBreak (text : List Char) : Bool := sideBySide isSpace isBreak text

/-- Whether a line within the text begins with a space. -/
def hasSpaceAfterBreak (text : List Char) : Bool := sideBySide isBreak isSpace text

/-- Whether the text may stand as it is. -/
def allowsPlain (text : List Char) : Bool :=
  text.all isPrintable && !text.any isBreak && !indicates text &&
    !text.head?.any isSpace && !text.getLast?.any isSpace

/-- Whether the text may stand between single quotes. -/
def allowsSingleQuotes (text : List Char) : Bool :=
  text.all isPrintable && !hasSpaceBeforeBreak text && !hasSpaceAfterBreak text

/-- Whether the text may stand as a block of lines. -/
def allowsBlock (text : List Char) : Bool :=
  text.all isPrintable && !hasSpaceBeforeBreak text && !text.getLast?.any isSpace

/-! ## Forms -/

/-- The characters with each run of breaks followed by the indentation of the next line. -/
def indented (indent : Nat) (form : Char → List Char) (afterBreak : Bool) : List Char → List Char
  | [] => []
  | c :: rest =>
    if isBreak c then c :: indented indent form true rest
    else
      (if afterBreak then List.replicate indent ' ' else []) ++ form c ++
        indented indent form false rest

def singleQuoted (indent : Nat) (text : List Char) : List Char :=
  let closing := if text.getLast?.any isBreak then List.replicate indent ' ' else []
  '\'' :: indented indent (fun c => if c = '\'' then ['\'', '\''] else [c]) false text ++
    closing ++ ['\'']

def hexDigits (width code : Nat) : List Char :=
  let digits := (Nat.toDigits 16 code).map Char.toUpper
  List.replicate (width - digits.length) '0' ++ digits

def doubleQuotedChar (c : Char) : List Char :=
  if isPrintable c && !isBreak c && c != '"' && c != '\\' then [c]
  else '\\' :: match c with
    | '\x00' => ['0']
    | '\x07' => ['a']
    | '\x08' => ['b']
    | '\t' => ['t']
    | '\n' => ['n']
    | '\x0b' => ['v']
    | '\x0c' => ['f']
    | '\r' => ['r']
    | '\x1b' => ['e']
    | '"' => ['"']
    | '\\' => ['\\']
    | '\x85' => ['N']
    | '\u2028' => ['L']
    | '\u2029' => ['P']
    | c =>
      if c.toNat ≤ 0xff then 'x' :: hexDigits 2 c.toNat
      else if c.toNat ≤ 0xffff then 'u' :: hexDigits 4 c.toNat
      else 'U' :: hexDigits 8 c.toNat

def doubleQuoted (text : List Char) : List Char :=
  '"' :: text.flatMap doubleQuotedChar ++ ['"']

/-- How a block treats the end of its text: a text without a last line break has it stripped, and
further empty lines are kept. -/
def blockEnd (text : List Char) : List Char :=
  match text.reverse with
  | last :: before =>
    if !isBreak last then ['-']
    else if before.isEmpty || before.head?.any isBreak then ['+']
    else []
  | [] => ['-']

def block (indent : Nat) (text : List Char) : List Char :=
  let hint := if text.head?.any fun c => isSpace c || isBreak c then ['2'] else []
  '|' :: hint ++ blockEnd text ++ '\n' :: indented indent (fun c => [c]) true text

/-- A text, where further lines of it are indented by `indent`. -/
def text (indent : Nat) (text : List Char) : List Char :=
  if text.contains '\n' then
    if allowsBlock text then block indent text else doubleQuoted text
  else if !isAmbiguous text && allowsPlain text then text
  else if allowsSingleQuotes text then singleQuoted indent text
  else doubleQuoted text

end Yaml
end ResumableFlow
