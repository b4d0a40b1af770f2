import FormulaGrid.Cell.Column
import FormulaGrid.Text.Blank

/-!
# Cell references

* `CellRef`            a row and a column, counted from zero;
* `CellRef.name`       the reference as it is written: `B12` is row 11 of column 1;
* `CellRef.ofParts?`   the reference with the given letters and digits;
* `CellRef.parse?`     the reference that a text names, blanks around it aside;
* `RefError`           a text that names none.

A row number is at least 1, and neither it nor the value of the letters exceeds `maxIndex`.
-/

namespace FormulaGrid

open Number (maxIndex readNat)

structure CellRef where
  row : Nat
  col : Nat
  deriving DecidableEq, Repr

/-- the letters of the column and the number of the row -/
def CellRef.name (cell : CellRef) : String :=
  String.ofList (Column.letters cell.col ++ Nat.toDigits 10 (cell.row + 1))

instance : ToString CellRef := ⟨CellRef.name⟩

/-- the cell lies in a grid of the given size -/
def CellRef.inBounds (cell : CellRef) (rows cols : Nat) : Bool := cell.row < rows && cell.col < cols

/-- the row with a number, which is at least 1 -/
def CellRef.rowOfDigits? (digits : List Char) : Option Nat :=
  match readNat maxIndex digits with
  | .ok (n + 1) => some n
  | _ => none

def CellRef.ofParts? (letters digits : List Char) : Option CellRef :=
  match Column.ofLetters? letters, rowOfDigits? digits with
  | some col, some row => some ⟨row, col⟩
  | _, _ => none

/-- the reference that a text names: letters, then digits, and nothing else but blanks around -/
def CellRef.parse? (text : String) : Option CellRef :=
  let cs := Text.trim text.toList
  let letters := cs.takeWhile Char.isAlpha
  let digits := cs.dropWhile Char.isAlpha
  if digits.all Char.isDigit then ofParts? letters digits else none

inductive RefError where
  | invalid (text : String)
  deriving DecidableEq, Repr

/-- the wording of an error: the text as it was given -/
def RefError.message : RefError → String
  | .invalid text => "Invalid cell reference: " ++ text

/-- the reference that a text names, or the text as an error -/
def CellRef.parse (text : String) : Except RefError CellRef :=
  match parse? text with
  | some cell => .ok cell
  | none => .error (.invalid text)

end FormulaGrid
