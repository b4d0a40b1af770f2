import FormulaGrid.Sheet.Basic

/-!
# Settings of a grid

* `ClickToEdit`          what a click on the selected cell does;
* `Settings`             the size of the grid and the click policy;
* `Settings.validate`    whether a document of that size can be made;
* `Settings.overridden`  the settings with another number of rows or columns.
-/

namespace FormulaGrid

inductive ClickToEdit where
  /-- it opens the cell for editing -/
  | reclick
  /-- nothing; only a double click opens the cell -/
  | doubleClick
  deriving DecidableEq, Repr

structure Settings where
  rows : Nat := 10
  cols : Nat := 5
  clickToEdit : ClickToEdit := .reclick
  deriving DecidableEq, Repr

inductive SizeFault where
  | empty
  | tooManyCells
  deriving DecidableEq, Repr

inductive SettingsError where
  | invalidDimensions (rows cols : Nat) (fault : SizeFault)
  deriving DecidableEq, Repr

def SizeFault.message : SizeFault → String
  | .empty => "rows and cols must be at least 1"
  | .tooManyCells => "grid exceeds the cell limit"

def SettingsError.message : SettingsError → String
  | .invalidDimensions rows cols fault =>
    s!"Invalid grid dimensions {rows}x{cols}: " ++ fault.message

/-- at least one row and one column, and no more than `maxCells` cells -/
def Settings.validate (settings : Settings) : Except SettingsError Unit :=
  if settings.rows = 0 ∨ settings.cols = 0 then
    .error (.invalidDimensions settings.rows settings.cols .empty)
  else if settings.rows * settings.cols ≤ maxCells then .ok ()
  else .error (.invalidDimensions settings.rows settings.cols .tooManyCells)

/-- the given numbers of rows and columns in place of those set -/
def Settings.overridden (settings : Settings) (rows cols : Option Nat) : Settings :=
  { settings with rows := rows.getD settings.rows, cols := cols.getD settings.cols }

end FormulaGrid
