import FormulaGrid.Cell.Ref

/-!
# What formulas are evaluated against

* `Source`           the size of a grid and the raw texts of its cells;
* `Source.content?`  the raw text that a reference token names, if it lies in the grid.

A source may hold texts outside its grid; a reference never reaches them.
-/

namespace FormulaGrid

/-- a grid of raw texts, some of which may be missing -/
structure Source where
  rows : Nat
  cols : Nat
  raw : (row col : Nat) → Option String

def Source.rawAt (source : Source) (cell : CellRef) : Option String := source.raw cell.row cell.col

/-- the raw text of the cell with the given letters and digits, nothing outside the grid -/
def Source.content? (source : Source) (letters digits : List Char) : Option (List Char) :=
  match CellRef.ofParts? letters digits with
  | none => none
  | some cell =>
    if cell.inBounds source.rows source.cols then (source.rawAt cell).map String.toList else none

end FormulaGrid
