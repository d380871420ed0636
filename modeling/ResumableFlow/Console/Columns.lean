/-!
# Text in columns

Lines for a reader: a labelled value, and the rows of a table whose columns have fixed widths.
Widths count characters. A value that is too long for its column is cut and marked with three dots.
-/

namespace ResumableFlow
namespace Console

/-- The text with spaces after it up to a width. -/
def pad (width : Nat) (text : List Char) : List Char :=
  text ++ List.replicate (width - text.length) ' '

/-- The text within a width: as it is, or cut with three dots at its end. -/
def fit (width : Nat) (text : List Char) : List Char :=
  if width < text.length then text.take (width - 3) ++ ['.', '.', '.'] else text

@[simp] theorem length_pad (width : Nat) (text : List Char) :
    (pad width text).length = max width text.length := by
  simp only [pad, List.length_append, List.length_replicate]
  omega

/-- A column that has room for the three dots holds every value. -/
theorem length_fit_le {width : Nat} (h : 3 ≤ width) (text : List Char) :
    (fit width text).length ≤ width := by
  unfold fit
  split
  · simp only [List.length_append, List.length_take, List.length_cons, List.length_nil]
    omega
  · omega

/-- A cell of a table: a value and the width of its column. -/
abbrev Cell := String × Nat

def cell : Cell → List Char
  | (value, width) => pad width (fit width value.toList)

/-- A row of a table, with two spaces between its cells. -/
def tableRow (cells : List Cell) : String :=
  String.ofList ([' ', ' '].intercalate (cells.map cell))

def labelled (label value : String) : String :=
  String.ofList (pad 14 (label.toList ++ [':'])) ++ " " ++ value

end Console
end ResumableFlow
