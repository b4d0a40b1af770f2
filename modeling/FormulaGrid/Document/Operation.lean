import FormulaGrid.Document.Basic

/-!
# Operations on documents

* clicks: `select`, `beginEdit`, `beginEditSelected`;
* the draft: `setBuffer`, `commit`, `commitAndAdvance`, `blur`, `cancel`;
* the selection: `move`;
* cells: `barInput`, `setCell`, `clearCell`.

An operation that can fail gives the document after it together with its result.  A failed `blur`
has used up the text of the draft; every other failure leaves the document as it was.
-/

namespace FormulaGrid.Document

/-! ## clicks -/

/-- opens the cell nearest to a row and a column, with its text as the draft -/
def beginEdit (document : Document) (row col : Nat) : Document :=
  let cell := document.clamp row col
  { document with selection := cell, editing := true, buffer := (document.raw cell).getD "" }

def beginEditSelected (document : Document) : Document :=
  document.beginEdit document.selection.row document.selection.col

/-- a click: on the selected cell it may open it, elsewhere it selects and drops the draft -/
def select (document : Document) (row col : Nat) : Document :=
  let cell := document.clamp row col
  if cell = document.selection ∧ !document.editing ∧ document.clickToEdit = .reclick then
    document.beginEdit cell.row cell.col
  else { document with selection := cell, editing := false, buffer := "" }

/-! ## the draft -/

def setBuffer (document : Document) (text : String) : Document :=
  if document.editing then { document with buffer := text } else document

def commit (document : Document) (text : String) : Document × Except SheetError Unit :=
  match document.sheet.set document.selection.row document.selection.col text with
  | .error cause => (document, .error cause)
  | .ok sheet => ({ document with sheet := sheet, editing := false, buffer := "" }, .ok ())

def cancel (document : Document) : Document := { document with editing := false, buffer := "" }

/-- the focus leaves the editor: the draft is taken out of it and written -/
def blur (document : Document) : Document × Except SheetError Unit :=
  if document.editing then { document with buffer := "" }.commit document.buffer
  else (document, .ok ())

/-! ## the selection -/

/-- moves by an offset, as far as the grid goes; not while a cell is edited -/
def move (document : Document) (rows cols : Int) : Document × Bool :=
  if document.editing then (document, false)
  else
    let row := (document.selection.row + rows).toNat
    let col := (document.selection.col + cols).toNat
    ({ document with selection := document.clamp row col }, true)

/-- writes a text into the selected cell and moves one column to the right -/
def commitAndAdvance (document : Document) (text : String) : Document × Except SheetError Unit :=
  match document.commit text with
  | (document, .error cause) => (document, .error cause)
  | (document, .ok ()) => ((document.move 0 1).1, .ok ())

/-! ## cells -/

/-- typing in the formula bar is written at once -/
def barInput (document : Document) (text : String) : Document × Except SheetError Unit :=
  document.commit text

def setCell (document : Document) (cell : CellRef) (text : String) :
    Document × Except SheetError Unit :=
  match document.sheet.set cell.row cell.col text with
  | .error cause => (document, .error cause)
  | .ok sheet => ({ document with sheet := sheet }, .ok ())

def clearCell (document : Document) (cell : CellRef) : Document × Except SheetError Unit :=
  match document.sheet.clear cell.row cell.col with
  | .error cause => (document, .error cause)
  | .ok sheet => ({ document with sheet := sheet }, .ok ())

end FormulaGrid.Document
