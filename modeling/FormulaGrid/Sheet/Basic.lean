import FormulaGrid.Formula.Source

/-!
# Sheets

* `Sheet`            a grid of raw texts; a blank cell holds the empty text;
* `SheetError`       a cell outside the grid, a grid that is too large;
* `Sheet.blank?`     a grid of blank cells;
* `Sheet.get?`, `Sheet.set`, `Sheet.clear`   the text of a cell, read, written and blanked;
* `Sheet.nonBlank`   the cells that are not blank, row by row;
* `Sheet.source`     the sheet as what formulas are evaluated against.

The texts stand row by row in one array, whose size is the number of cells.
-/

namespace FormulaGrid

def maxCells : Nat := 1000000

inductive SheetError where
  | outOfBounds (row col rows cols : Nat)
  | tooLarge (rows cols : Nat)
  deriving DecidableEq, Repr

def SheetError.message : SheetError → String
  | .outOfBounds row col rows cols =>
    s!"Cell {row},{col} is outside the {rows}x{cols} sheet"
  | .tooLarge rows cols => s!"A {rows}x{cols} sheet exceeds {maxCells} cells"

structure Sheet where
  rows : Nat
  cols : Nat
  cells : Array String
  size_cells : cells.size = rows * cols

def Sheet.blank (rows cols : Nat) : Sheet where
  rows := rows
  cols := cols
  cells := Array.replicate (rows * cols) ""
  size_cells := Array.size_replicate

/-- all cells blank, unless there are more than `maxCells` -/
def Sheet.blank? (rows cols : Nat) : Except SheetError Sheet :=
  if rows * cols ≤ maxCells then .ok (Sheet.blank rows cols) else .error (.tooLarge rows cols)

def Sheet.index (sheet : Sheet) (row col : Nat) : Nat := row * sheet.cols + col

def Sheet.contains (sheet : Sheet) (row col : Nat) : Bool := row < sheet.rows && col < sheet.cols

theorem Sheet.index_lt (sheet : Sheet) (row col : Nat) (h : sheet.contains row col) :
    sheet.index row col < sheet.cells.size := by
  simp only [Sheet.contains, Bool.and_eq_true, decide_eq_true_eq] at h
  have hr : (row + 1) * sheet.cols ≤ sheet.rows * sheet.cols := Nat.mul_le_mul_right _ h.1
  rw [sheet.size_cells, Sheet.index]
  rw [Nat.add_mul, Nat.one_mul] at hr
  omega

/-- the text of a cell, nothing outside the grid -/
def Sheet.get? (sheet : Sheet) (row col : Nat) : Option String :=
  if sheet.contains row col then sheet.cells[sheet.index row col]? else none

/-- another text in a cell; any text is taken -/
def Sheet.set (sheet : Sheet) (row col : Nat) (text : String) : Except SheetError Sheet :=
  if sheet.contains row col then
    .ok { sheet with
      cells := sheet.cells.setIfInBounds (sheet.index row col) text
      size_cells := by rw [Array.size_setIfInBounds, sheet.size_cells] }
  else .error (.outOfBounds row col sheet.rows sheet.cols)

def Sheet.clear (sheet : Sheet) (row col : Nat) : Except SheetError Sheet := sheet.set row col ""

def Sheet.nonBlank (sheet : Sheet) : List (CellRef × String) :=
  sheet.cells.toList.zipIdx.filterMap fun (text, i) =>
    if text.isEmpty then none else some (⟨i / sheet.cols, i % sheet.cols⟩, text)

def Sheet.source (sheet : Sheet) : Source := ⟨sheet.rows, sheet.cols, sheet.get?⟩

end FormulaGrid
