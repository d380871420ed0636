import ResumableFlow.Text.Alphanumeric
import ResumableFlow.Text.Blank

/-!
# Settings files

A settings file supplies variables that the environment does not have. It holds one assignment a
line, with comments, quotes, escapes and the values of other variables. A quoted value may go on
over several lines. Reading stops at the first line that is no assignment; what came before it stays
in force.
-/

namespace ResumableFlow
namespace Console

abbrev Environment := List (String × String)

/-- The value of a variable. The environment is searched for an entry `name=value`, so that a name
with an equals sign in it stands for the rest of a value. -/
def Environment.value? (environment : Environment) (name : String) : Option String :=
  let sought := (name ++ "=").toList
  environment.findSome? fun (key, value) =>
    let entry := (key ++ "=" ++ value).toList
    if sought.isPrefixOf entry then some (String.ofList (entry.drop sought.length)) else none

/-- A variable whose value no environment can hold: it has a null character in it. -/
structure UnstorableVariable where
  name : String
  deriving DecidableEq, Repr

def UnstorableVariable.message (error : UnstorableVariable) : String :=
  "the value of " ++ error.name ++ " holds a null character"

namespace Settings

/-! ## Lines -/

/-- Where in a line a character stands. -/
inductive Position where
  | plain
  | blank
  | escape
  | single
  | singleEscape
  | double
  | doubleEscape
  deriving DecidableEq

/-- The position outside of quotes after a character that no blank and no escape came before. -/
def Position.ofPlain (c : Char) : Position :=
  if c = '\\' then .escape else if c = '"' then .double else if c = '\'' then .single else .plain

/-- The position after a character. There is none where a comment starts. -/
def Position.next : Position → Char → Option Position
  | plain, c =>
    if Text.isBlank c ∧ c ≠ '\n' ∧ c ≠ '\r' then some blank else some (.ofPlain c)
  | blank, c => if c = '#' then none else some (.ofPlain c)
  | escape, _ => some plain
  | single, c => some (if c = '\\' then singleEscape else if c = '\'' then plain else single)
  | singleEscape, _ => some single
  | double, c => some (if c = '\\' then doubleEscape else if c = '"' then plain else double)
  | doubleEscape, _ => some double

/-- The part of a line before a comment, and the position after the line if it has none. -/
def beforeComment (position : Position) : List Char → List Char × Option Position
  | [] => ([], some position)
  | c :: rest =>
    match position.next c with
    | none => ([], none)
    | some next =>
      let (kept, last) := beforeComment next rest
      (c :: kept, last)

def splitLines : List Char → List (List Char)
  | [] => []
  | c :: rest =>
    if c = '\n' then ['\n'] :: splitLines rest
    else
      match splitLines rest with
      | [] => [[c]]
      | line :: lines => (c :: line) :: lines

/-- The line without a line feed, or a carriage return and a line feed, at its end. -/
def dropLineEnd (line : List Char) : List Char :=
  match line.reverse with
  | '\n' :: '\r' :: before => before.reverse
  | '\n' :: before => before.reverse
  | _ => line

/-- Join the lines that belong together and drop comments. `pending` is what the current entry has
so far and `position` where that ends. An entry that the text ends in the middle of is `none`. -/
def entries (pending : List Char) (position : Position) :
    List (List Char) → List (Option (List Char))
  | [] => if position = .plain then [] else [none]
  | line :: lines =>
    if ((pending ++ line).dropWhile Text.isBlank).head? = some '#' then entries [] .plain lines
    else
      match beforeComment position line with
      | (kept, none) => some (pending ++ kept) :: entries [] .plain lines
      | (_, some .plain) => some (dropLineEnd (pending ++ line)) :: entries [] .plain lines
      | (_, some position) => entries (pending ++ line) position lines

/-! ## Values -/

/-- How the next character of a value is read. -/
inductive Mode where
  | text
  | escaped
  | single
  /-- In the name of a variable, with the characters so far, the latest first. -/
  | name (chars : List Char)
  /-- In the name of a variable between braces. -/
  | bracedName (chars : List Char)
  /-- After the blank that ends the value. -/
  | ended

/-- The value that a text stands for, where `look` gives the values of variables and
`quoted` tells whether a double quote is open. A name without braces takes the character
after it along as it is. -/
def value (look : String → String) : (quoted : Bool) → Mode → List Char → Option (List Char)
  | quoted, mode, [] =>
    if quoted then none
    else
      match mode with
      | .single | .bracedName _ => none
      | .name chars => some (look (String.ofList chars.reverse)).toList
      | _ => some []
  | quoted, .ended, c :: rest =>
    if c = ' ' ∨ c = '\t' then value look quoted .ended rest
    else if c = '#' then some []
    else none
  | quoted, .escaped, c :: rest =>
    if c = '\\' ∨ c = '\'' ∨ c = '"' ∨ c = '$' ∨ c = ' ' then
      (value look quoted .text rest).map (c :: ·)
    else if c = 'n' then (value look quoted .text rest).map ('\n' :: ·)
    else none
  | quoted, .single, c :: rest =>
    if c = '\'' then value look quoted .text rest
    else (value look quoted .single rest).map (c :: ·)
  | quoted, .name chars, c :: rest =>
    if Text.isAlphanumeric c then value look quoted (.name (c :: chars)) rest
    else if c = '{' ∧ chars = [] then value look quoted (.bracedName []) rest
    else
      let found := (look (String.ofList chars.reverse)).toList
      if c = '$' then (value look quoted (.name []) rest).map (found ++ ·)
      else (value look quoted .text rest).map (found ++ c :: ·)
  | quoted, .bracedName chars, c :: rest =>
    if c = '}' then
      (value look quoted .text rest).map ((look (String.ofList chars.reverse)).toList ++ ·)
    else value look quoted (.bracedName (c :: chars)) rest
  | quoted, .text, c :: rest =>
    if c = '$' then value look quoted (.name []) rest
    else if c = '\\' then value look quoted .escaped rest
    else if c = '"' then value look (!quoted) .text rest
    else if quoted then (value look quoted .text rest).map (c :: ·)
    else if c = '\'' then value look quoted .single rest
    else if c = ' ' ∨ c = '\t' then value look quoted .ended rest
    else (value look quoted .text rest).map (c :: ·)

/-! ## Assignments -/

def skipBlanks (text : List Char) : List Char := text.dropWhile Text.isBlank

/-- Split off the name at the start of a text. -/
def name? (text : List Char) : Option (List Char × List Char) :=
  if text.head?.any fun c => c.isAlpha || c == '_' then
    let inName := fun c : Char => c.isAlphanum || c == '_' || c == '.'
    some (text.takeWhile inName, text.dropWhile inName)
  else none

def afterEquals? : List Char → Option (List Char)
  | '=' :: rest => some rest
  | _ => none

/-- The name that an assignment begins with, and the text of the value. The word `export` may stand
before the name. -/
def assignment? (text : List Char) : Option (List Char × List Char) := do
  let (name, rest) ← name? text
  let rest := skipBlanks rest
  if name = "export".toList ∧ (afterEquals? rest).isNone then
    let (name, rest) ← name? rest
    return (name, skipBlanks (← afterEquals? (skipBlanks rest)))
  else return (name, skipBlanks (← afterEquals? rest))

/-- Read one entry: no assignment, an assignment, or a failure. -/
def readEntry (look : String → String) (entry : List Char) :
    Option (Option (String × String)) :=
  let text := skipBlanks (Text.trimEnd entry)
  if text.isEmpty ∨ text.head? = some '#' then some none
  else do
    let (name, rest) ← assignment? text
    if rest.isEmpty ∨ rest.head? = some '#' then return some (String.ofList name, "")
    else return some (String.ofList name, String.ofList (← value look false .text rest))

/-- Add a variable to an environment that does not have it. -/
def supply (environment : Environment) (name value : String) :
    Except UnstorableVariable Environment :=
  if (environment.value? name).isSome then .ok environment
  else if value.toList.contains '\x00' then .error ⟨name⟩
  else .ok ((name, value) :: environment)

/-- Add the variables of the entries to an environment that does not have them. `seen` are the
values that the entries so far give, which serve where the environment has none. -/
def load (environment seen : Environment) :
    List (Option (List Char)) → Except UnstorableVariable Environment
  | [] => .ok environment
  | none :: _ => .ok environment
  | some entry :: rest =>
    let look := fun name =>
      ((environment.value? name).orElse fun _ => seen.lookup name).getD ""
    match readEntry look entry with
    | none => .ok environment
    | some none => load environment seen rest
    | some (some (name, value)) => do
      load (← supply environment name value) ((name, value) :: seen) rest

end Settings

/-- The environment with the variables that a settings file supplies. A byte order mark before the
text is passed over. -/
def Environment.withSettings (environment : Environment) (text : String) :
    Except UnstorableVariable Environment :=
  let chars := match text.toList with
    | '\ufeff' :: rest => rest
    | chars => chars
  Settings.load environment [] (Settings.entries [] .plain (Settings.splitLines chars))

end Console
end ResumableFlow
