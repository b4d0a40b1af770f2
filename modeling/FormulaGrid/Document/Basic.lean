import FormulaGrid.Settings.Basic

/-!
# Documents

* `Document`                a sheet with a selected cell and an editor for it;
* `Document.new?`           a blank document of any size a sheet can have;
* `Document.ofSettings`     a blank document of valid settings;
* `Document.clamp`          the cell of the grid nearest to a row and a column.

The editor is open or not, and it holds a text, the draft.  That the draft is empty while the editor is
closed is kept by the operations.
-/

namespace FormulaGrid

/-- a sheet, the selected cell, whether that is open for editing, and the text being typed into it -/
structure Document where
  sheet : Sheet
  selection : CellRef
  editing : Bool
  buffer : String
  clickToEdit : ClickToEdit

/-- `A1` is selected and nothing is edited -/
def Document.ofSheet (sheet : Sheet) (clickToEdit : ClickToEdit) : Document :=
  ⟨sheet, ⟨0, 0⟩, false, "", clickToEdit⟩

/-- a blank document, perhaps without rows or columns -/
def Document.new? (rows cols : Nat) (clickToEdit : ClickToEdit) : Except SheetError Document :=
  (Sheet.blank? rows cols).map fun sheet => ofSheet sheet clickToEdit

def Document.default : Document :=
  let settings : Settings := {}
  ofSheet (Sheet.blank settings.rows settings.cols) settings.clickToEdit

/-- why there is no document of the given settings -/
inductive DocumentError where
  | settings (cause : SettingsError)
  | sheet (cause : SheetError)
  deriving DecidableEq, Repr

def DocumentError.message : DocumentError → String
  | .settings cause => cause.message
  | .sheet cause => cause.message

def Document.ofSettings (settings : Settings) : Except DocumentError Document :=
  match settings.validate with
  | .error cause => .error (.settings cause)
  | .ok () =>
    match new? settings.rows settings.cols settings.clickToEdit with
    | .error cause => .error (.sheet cause)
    | .ok document => .ok document

/-! ## reading -/

def Document.rows (document : Document) : Nat := document.sheet.rows

def Document.cols (document : Document) : Nat := document.sheet.cols

def Document.raw (document : Document) (cell : CellRef) : Option String :=
  document.sheet.get? cell.row cell.col

/-- the text of the selected cell, shown in the formula bar -/
def Document.barText (document : Document) : String :=
  (document.raw document.selection).getD ""

/-- the nearest cell of the grid; `A1` where there are no rows or columns -/
def Document.clamp (document : Document) (row col : Nat) : CellRef :=
  ⟨min row (document.rows - 1), min col (document.cols - 1)⟩

end FormulaGrid
