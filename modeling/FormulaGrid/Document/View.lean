import FormulaGrid.Document.Basic
import FormulaGrid.Formula.Evaluation

/-!
# What a document shows

* `evaluateCell`, `displayValue`   the evaluation of a cell, and its text in the grid;
* `tooltip`                        the formula behind a cell;
* `statusLabel`, `columnLabels`    the name of the selected cell, the names of the columns.
-/

namespace FormulaGrid.Document

/-- the evaluation of a cell, nothing outside the grid; what is no formula stands for itself -/
def evaluateCell (document : Document) (cell : CellRef) : Option Evaluation :=
  (document.raw cell).map fun raw =>
    if Formula.isFormula raw.toList then Formula.evaluate document.sheet.source raw else .text raw

/-- the text of a cell in the grid, empty outside -/
def displayValue (document : Document) (row col : Nat) : String :=
  ((document.evaluateCell ⟨row, col⟩).map Evaluation.shown).getD ""

/-- the formula of a cell that has one -/
def tooltip (document : Document) (row col : Nat) : Option String :=
  (document.raw ⟨row, col⟩).filter fun raw => Formula.isFormula raw.toList

def statusLabel (document : Document) : String := document.selection.name

def columnLabels (document : Document) : List String :=
  (List.range document.cols).map fun col => String.ofList (Column.letters col)

end FormulaGrid.Document
