import FormulaGrid.Number.Bounded

/-!
# Column names

* `Column.letters`     the name of a column: `0` is `A`, `25` is `Z`, `26` is `AA`;
* `Column.ofLetters?`  the column of a name, capital letters or small ones.

Names are numbers in base 26 without a digit zero: the letters count from 1 to 26, and a column is
the value of its name less one.
-/

namespace FormulaGrid.Column

open Number (maxIndex)

/-- the letter with a value from `0` to `25` -/
def letter (n : Nat) : Char := Char.ofNat ('A'.toNat + n)

/-- the name of a column, in front of `acc` -/
def lettersOnto (acc : List Char) (column : Nat) : List Char :=
  if column < 26 then letter column :: acc
  else lettersOnto (letter (column % 26) :: acc) (column / 26 - 1)
termination_by column

/-- the name of a column -/
def letters (column : Nat) : List Char := lettersOnto [] column

/-- the value of a letter, from `1` to `26` -/
def letterValue (c : Char) : Nat := c.toUpper.toNat - 'A'.toNat + 1

/-- continue the value of a name by one letter, within the limit of an index -/
def addLetter? (acc : Nat) (c : Char) : Option Nat :=
  if c.isAlpha then
    let n := 26 * acc + letterValue c
    if n ≤ maxIndex then some n else none
  else none

/-- the column of a name -/
def ofLetters? (cs : List Char) : Option Nat :=
  match cs.foldlM addLetter? 0 with
  | some (n + 1) => some n
  | _ => none

end FormulaGrid.Column
