import Mathlib.Algebra.GroupWithZero.Nat
import ResumableFlow.Deploy.Program

/-!
# Columns in line

A row of a table is its cells with two spaces in each gap. A column that has room for the three dots
fills its width whatever the value, and so starts where the widths of the columns before it say, in
every row alike. `Console.tableRow_aligned` says how long a row is and what each of its columns
shows.
-/

namespace ResumableFlow
namespace Console

/-! ## Cells -/

/-- What a column of this width shows of a value: all of it with spaces behind it, or its beginning
with three dots. -/
structure Shows (value : String) (width : Nat) (shown : List Char) : Prop where
  length_eq : shown.length = width
  whole_iff : shown = value.toList ++ List.replicate (width - value.length) ' ' ↔
    value.length ≤ width
  cut : width < value.length → shown = value.toList.take (width - 3) ++ ['.', '.', '.']

theorem fit_of_le {width : Nat} {text : List Char} (fits : text.length ≤ width) :
    fit width text = text :=
  if_neg (Nat.not_lt.mpr fits)

theorem fit_of_lt {width : Nat} {text : List Char} (long : width < text.length) :
    fit width text = text.take (width - 3) ++ ['.', '.', '.'] :=
  if_pos long

theorem length_cell (value : String) {width : Nat} (roomy : 3 ≤ width) :
    (cell (value, width)).length = width := by
  rw [cell, length_pad]
  exact Nat.max_eq_left (length_fit_le roomy value.toList)

theorem cell_of_le {value : String} {width : Nat} (fits : value.length ≤ width) :
    cell (value, width) = value.toList ++ List.replicate (width - value.length) ' ' := by
  rw [← String.length_toList] at fits
  rw [cell, fit_of_le fits, pad, String.length_toList]

theorem cell_of_lt {value : String} {width : Nat} (roomy : 3 ≤ width)
    (long : width < value.length) :
    cell (value, width) = value.toList.take (width - 3) ++ ['.', '.', '.'] := by
  rw [← String.length_toList] at long
  have full : (value.toList.take (width - 3) ++ ['.', '.', '.']).length = width := by
    rw [List.length_append, List.length_take_of_le (by omega)]
    exact Nat.sub_add_cancel roomy
  rw [cell, fit_of_lt long, pad, full, Nat.sub_self, List.replicate_zero, List.append_nil]

/-- A cut value has as many characters as its column, and so cannot be a longer value as a whole. -/
theorem shows_cell {value : String} {width : Nat} (roomy : 3 ≤ width) :
    Shows value width (cell (value, width)) where
  length_eq := length_cell value roomy
  whole_iff := by
    refine ⟨fun whole => ?_, cell_of_le⟩
    have filled := length_cell value roomy
    rw [whole, List.length_append, String.length_toList] at filled
    exact Nat.le.intro filled
  cut := cell_of_lt roomy

/-! ## Rows -/

/-- The part of a row from a place on. -/
def column (row : String) (start width : Nat) : List Char := (row.toList.drop start).take width

/-- Where a column starts that has columns of these widths before it, each with a gap behind it. -/
def start (widths : List Nat) : Nat := (widths.map (· + 2)).sum

@[simp] theorem start_nil : start [] = 0 := rfl

@[simp] theorem start_cons (width : Nat) (widths : List Nat) :
    start (width :: widths) = width + 2 + start widths := rfl

theorem toList_tableRow (cells : List Cell) :
    (tableRow cells).toList = [' ', ' '].intercalate (cells.map cell) :=
  String.toList_ofList

theorem toList_tableRow_singleton (only : Cell) : (tableRow [only]).toList = cell only := by
  rw [toList_tableRow]
  exact List.intercalate_singleton

theorem toList_tableRow_cons_cons (first second : Cell) (rest : List Cell) :
    (tableRow (first :: second :: rest)).toList =
      cell first ++ ([' ', ' '] ++ (tableRow (second :: rest)).toList) := by
  rw [toList_tableRow, toList_tableRow, ← List.append_assoc]
  exact List.intercalate_cons_cons

/-- A row starts with its first cell, and goes on with a gap if it goes on. -/
theorem exists_toList_tableRow_cons (first : Cell) (rest : List Cell) :
    ∃ more, (tableRow (first :: rest)).toList = cell first ++ more ∧
      (rest ≠ [] → more.take 2 = [' ', ' ']) := by
  cases rest with
  | nil =>
    refine ⟨[], ?_, fun goesOn => absurd rfl goesOn⟩
    rw [toList_tableRow_singleton, List.append_nil]
  | cons second rest => exact ⟨_, toList_tableRow_cons_cons first second rest, fun _ => rfl⟩

theorem length_tableRow {cells : List Cell} (roomy : ∀ cell ∈ cells, 3 ≤ cell.2) :
    (tableRow cells).length = (cells.map Prod.snd).sum + 2 * (cells.length - 1) := by
  induction cells with
  | nil => rfl
  | cons first rest ih =>
    obtain ⟨firstRoomy, restRoomy⟩ := List.forall_mem_cons.mp roomy
    have filled : (cell first).length = first.2 := length_cell first.1 firstRoomy
    cases rest with
    | nil =>
      rw [← String.length_toList, toList_tableRow_singleton, filled]
      rfl
    | cons second rest =>
      have rest := ih restRoomy
      rw [← String.length_toList] at rest ⊢
      rw [toList_tableRow_cons_cons, List.length_append, List.length_append, filled, rest]
      simp only [List.map_cons, List.sum_cons, List.length_cons, List.length_nil]
      omega

/-- The columns before a column take up what their widths say, so that the rest of the row is the
row of the columns from there on. -/
theorem drop_start {before : List Cell} (roomy : ∀ cell ∈ before, 3 ≤ cell.2) (next : Cell)
    (after : List Cell) :
    (tableRow (before ++ next :: after)).toList.drop (start (before.map Prod.snd)) =
      (tableRow (next :: after)).toList := by
  induction before with
  | nil => rfl
  | cons first before ih =>
    obtain ⟨firstRoomy, restRoomy⟩ := List.forall_mem_cons.mp roomy
    have filled : (cell first ++ [' ', ' ']).length = first.2 + 2 := by
      rw [List.length_append, length_cell first.1 firstRoomy]
      rfl
    have goesOn : before ++ next :: after ≠ [] :=
      List.append_ne_nil_of_right_ne_nil before (List.cons_ne_nil next after)
    obtain ⟨second, rest, row⟩ := List.exists_cons_of_ne_nil goesOn
    rw [List.cons_append, List.map_cons, start_cons, ← List.drop_drop, ← ih restRoomy, row,
      toList_tableRow_cons_cons, ← List.append_assoc, List.drop_left' filled]

/-- A column shows its value where the widths before it say, and is divided from the column after
it. -/
theorem column_tableRow (before : List Cell) {after : List Cell} {value : String} {width : Nat}
    (roomy : ∀ cell ∈ before ++ (value, width) :: after, 3 ≤ cell.2) :
    Shows value width (column (tableRow (before ++ (value, width) :: after))
      (start (before.map Prod.snd)) width) ∧
    (after ≠ [] → column (tableRow (before ++ (value, width) :: after))
      (start (before.map Prod.snd) + width) 2 = [' ', ' ']) := by
  obtain ⟨beforeRoomy, restRoomy⟩ := List.forall_mem_append.mp roomy
  have wide : 3 ≤ width := (List.forall_mem_cons.mp restRoomy).1
  have filled : (cell (value, width)).length = width := length_cell value wide
  obtain ⟨more, row, gap⟩ := exists_toList_tableRow_cons (value, width) after
  rw [column, column, ← List.drop_drop, drop_start beforeRoomy, row, List.take_left' filled,
    List.drop_left' filled]
  exact ⟨shows_cell wide, gap⟩

/-- A row has as many characters as its widths have together, and two for each gap. The column
behind some others starts where their widths say, whatever the values, and shows its value there: as
a whole just if the value has no more characters than the column is wide. Two spaces divide it from
the column after it. -/
theorem tableRow_aligned {cells : List Cell} (roomy : ∀ cell ∈ cells, 3 ≤ cell.2) :
    (tableRow cells).length = (cells.map Prod.snd).sum + 2 * (cells.length - 1) ∧
    ∀ before value width after, cells = before ++ (value, width) :: after →
      Shows value width (column (tableRow cells) (start (before.map Prod.snd)) width) ∧
      (after ≠ [] →
        column (tableRow cells) (start (before.map Prod.snd) + width) 2 = [' ', ' ']) := by
  refine ⟨length_tableRow roomy, ?_⟩
  rintro before value width after rfl
  exact column_tableRow before roomy

/-- A value that is one character too long, one that fits exactly, and one that is shorter. -/
def sizes : List Cell := [("größer", 5), ("groß", 4), ("ok", 4)]

theorem tableRow_aligned_sizes :
    (∀ cell ∈ sizes, 3 ≤ cell.2) ∧ (tableRow sizes).length = 17 ∧
    column (tableRow sizes) 0 5 = "gr...".toList ∧ column (tableRow sizes) 7 4 = "groß".toList ∧
    column (tableRow sizes) 13 4 = "ok  ".toList ∧ column (tableRow sizes) 11 2 = [' ', ' '] := by
  have roomy : ∀ cell ∈ sizes, 3 ≤ cell.2 := by decide
  obtain ⟨length, columns⟩ := tableRow_aligned roomy
  have cut := (columns [] "größer" 5 _ rfl).1.cut (by decide)
  obtain ⟨whole, gap⟩ := columns [("größer", 5)] "groß" 4 _ rfl
  have short := (columns [("größer", 5), ("groß", 4)] "ok" 4 [] rfl).1.whole_iff.mpr (by decide)
  exact ⟨roomy, length, cut, whole.whole_iff.mpr (by decide), short, gap (by decide)⟩

end Console

/-! ## The listing of a flow -/

namespace Deployment

open Console

theorem exists_cells_of_mem_rowLines {rows : List Row} {line : String}
    (mem : line ∈ rowLines rows) :
    ∃ cells : List Cell, line = tableRow cells ∧ cells.map Prod.snd = [32, 8, 32, 26] := by
  rcases List.mem_cons.mp mem with rfl | mem
  · exact ⟨_, rfl, rfl⟩
  · obtain ⟨row, _, mem⟩ := List.mem_flatMap.mp mem
    obtain ⟨destination, _, rfl⟩ := List.mem_map.mp mem
    exact ⟨_, rfl, rfl⟩

/-- The heading and every line below it are of one length, whatever the names of the scopes. -/
theorem length_of_mem_rowLines {rows : List Row} {line : String} (mem : line ∈ rowLines rows) :
    line.length = 104 := by
  obtain ⟨cells, rfl, widths⟩ := exists_cells_of_mem_rowLines mem
  have roomy : ∀ cell ∈ cells, 3 ≤ cell.2 := by
    have wide : ∀ width ∈ cells.map Prod.snd, 3 ≤ width := by
      rw [widths]
      decide
    exact fun cell mem => wide cell.2 (List.mem_map_of_mem mem)
  have count : cells.length = 4 := by
    rw [← List.length_map Prod.snd, widths]
    rfl
  rw [length_tableRow roomy, widths, count]
  rfl

/-- Each destination of each row has a line, with its parts at the same places in all of them. -/
theorem exists_line_of_mem {rows : List Row} {row : Row} {destination : Destination}
    (memRow : row ∈ rows) (mem : destination ∈ row.destinations) :
    ∃ line ∈ rowLines rows, Shows row.source.id 32 (column line 0 32) ∧
      Shows (if row.exclusive then "dynamic" else "static") 8 (column line 34 8) ∧
      Shows destination.event.id 32 (column line 44 32) ∧
      Shows destination.reason 26 (column line 78 26) := by
  let source : Cell := (row.source.id, 32)
  let kind : Cell := (if row.exclusive then "dynamic" else "static", 8)
  let target : Cell := (destination.event.id, 32)
  let reason : Cell := (destination.reason, 26)
  have line : tableRow [source, kind, target, reason] ∈ rowLines rows :=
    List.mem_cons_of_mem _
      (List.mem_flatMap.mpr ⟨row, memRow, List.mem_map.mpr ⟨destination, mem, rfl⟩⟩)
  have roomy : ∀ cell ∈ [source, kind, target, reason], 3 ≤ cell.2 := by
    simp [source, kind, target, reason]
  exact ⟨_, line, (column_tableRow [] roomy).1,
    (column_tableRow [source] roomy).1,
    (column_tableRow [source, kind] roomy).1,
    (column_tableRow [source, kind, target] roomy).1⟩

end Deployment

end ResumableFlow
