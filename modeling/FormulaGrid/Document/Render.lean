import FormulaGrid.Document.View

/-!
# The grid as plain text

* `fit`          a text cut or filled up to a width;
* `cellText`     the text of a cell, in brackets if it is selected;
* `widths`       the widths of the columns;
* `gridLines`    the header and the rows;
* `render`       the grid, and below it the selected cell and the formula bar.

A column is as wide as its widest text, but not narrower than 3 nor wider than 16 characters.  A text
that is too wide loses its end to a `~`.
-/

namespace FormulaGrid.Document

def minWidth : Nat := 3

def maxWidth : Nat := 16

/-- filled up with spaces, or cut with `~` as the last character -/
def fit (cs : List Char) (width : Nat) : List Char :=
  if cs.length ≤ width then cs ++ List.replicate (width - cs.length) ' '
  else cs.take (width - 1) ++ ['~']

def fitRight (cs : List Char) (width : Nat) : List Char :=
  List.replicate (width - cs.length) ' ' ++ cs

/-- the text of a cell in the grid; the selected cell shows its draft while it is edited -/
def cellText (document : Document) (row col : Nat) : List Char :=
  if document.selection = ⟨row, col⟩ then
    if document.editing then '[' :: document.buffer.toList ++ ['|', ']']
    else '[' :: (document.displayValue row col).toList ++ [']']
  else (document.displayValue row col).toList

def cellTexts (document : Document) : List (List (List Char)) :=
  (List.range document.rows).map fun row => (List.range document.cols).map (document.cellText row)

/-- the width of each column: that of its widest text, within the limits -/
def widths (labels : List (List Char)) (texts : List (List (List Char))) : List Nat :=
  (texts.foldl (fun ws row => List.zipWith max ws (row.map List.length)) (labels.map List.length)).map
    fun w => max minWidth (min maxWidth w)

/-- a line of the grid: what stands left of it, then its texts after bars -/
def gridLine (left : List Char) (texts : List (List Char)) (widths : List Nat) : List Char :=
  left ++ (List.zipWith (fun text w => " | ".toList ++ fit text w) texts widths).flatten

/-- the header, then the rows with their numbers -/
def gridLines (document : Document) : List (List Char) :=
  let labels := document.columnLabels.map String.toList
  let texts := document.cellTexts
  let ws := widths labels texts
  let gutter := (Nat.toDigits 10 document.rows).length
  gridLine (List.replicate gutter ' ') labels ws ::
    texts.zipIdx.map fun (row, i) => gridLine (fitRight (Nat.toDigits 10 (i + 1)) gutter) row ws

/-- the grid, each line ended, and the status -/
def render (document : Document) : String :=
  String.ofList (document.gridLines.flatMap (· ++ ['\n'])) ++
    document.statusLabel ++ ": " ++ document.barText

end FormulaGrid.Document
