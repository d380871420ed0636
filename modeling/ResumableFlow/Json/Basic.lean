/-!
# JSON values

The values that the library stores and prints, and the readings of a value as a text, a truth value,
a counter, a list or a record. A record has its fields in a fixed order; it is written as an object,
and read from an object or from an array of the fields in order.
-/

namespace ResumableFlow

inductive Json where
  | null
  | bool (value : Bool)
  | nat (value : Nat)
  | str (text : String)
  | arr (items : List Json)
  | obj (members : List (String × Json))
  /-- A well-formed value that no format of this library reads: a number that is not a plain
  natural, or a text with half a surrogate pair. It can be skipped. -/
  | other

namespace Json

/-! ## Readings -/

def text? : Json → Option String
  | str text => some text
  | _ => none

def bool? : Json → Option Bool
  | bool value => some value
  | _ => none

/-- A counter of 32 bits. -/
def uint32? : Json → Option UInt32
  | nat value => if value < 0x100000000 then some (.ofNat value) else none
  | _ => none

/-- A text, or `null` for none. -/
def optionalText? : Json → Option (Option String)
  | null => some none
  | str text => some (some text)
  | _ => none

/-- An array whose items can all be read. -/
def list? {α : Type} (read : Json → Option α) : Json → Option (List α)
  | arr items => items.mapM read
  | _ => none

/-- The value of a member that occurs at most once: `none` when it is repeated, and no value when it
does not occur. -/
def member? (name : String) (members : List (String × Json)) : Option (Option Json) :=
  match members.filter (·.1 = name) with
  | [] => some none
  | [(_, value)] => some (some value)
  | _ => none

/-- The fields of a record in the order of their names, each with its value if it is there. Members
with other names are skipped; an array gives the fields in order and may stop early. -/
def fields? (names : List String) : Json → Option (List (Option Json))
  | obj members => names.mapM fun name => member? name members
  | arr items =>
    if items.length ≤ names.length then
      some (items.map some ++ List.replicate (names.length - items.length) none)
    else none
  | _ => none

def required {α : Type} (read : Json → Option α) (field : Option Json) : Option α :=
  field.bind read

def withDefault {α : Type} (default : α) (read : Json → Option α) : Option Json → Option α
  | none => some default
  | some value => read value

/-! ## Order of members -/

mutual

/-- The value with the members of each object in the order of their names. -/
def sortKeys : Json → Json
  | arr items => arr (sortKeysItems items)
  | obj members => obj ((sortKeysMembers members).mergeSort fun a b => decide (a.1 ≤ b.1))
  | value => value

def sortKeysItems : List Json → List Json
  | [] => []
  | item :: items => item.sortKeys :: sortKeysItems items

def sortKeysMembers : List (String × Json) → List (String × Json)
  | [] => []
  | (name, value) :: members => (name, value.sortKeys) :: sortKeysMembers members

end

end Json

end ResumableFlow
