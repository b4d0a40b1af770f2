import FormulaGrid.Arith.Value
import FormulaGrid.Text.Blank

/-!
# The sum of a list of arguments

* `afterSum?`   what follows the opening parenthesis in a text that begins like a sum;
* `sumBody?`    the arguments of a sum that is closed at the end of the text;
* `sumOf`       the sum of the arguments, each taken as arithmetic without references.

The name `sum` is recognised whatever the case of its letters, the long s among them.
-/

namespace FormulaGrid.Formula

def afterName? : List Char → Option (List Char)
  | s :: u :: m :: rest =>
    if ['s', 'S', 'ſ'].contains s && ['u', 'U'].contains u && ['m', 'M'].contains m then some rest
    else none
  | _ => none

/-- the text after `sum`, blanks and `(` -/
def afterSum? (cs : List Char) : Option (List Char) :=
  match (afterName? cs).map Text.trimStart with
  | some ('(' :: rest) => some rest
  | _ => none

/-- the text before a closing parenthesis at the end, on one line -/
def sumBody? (cs : List Char) : Option (List Char) :=
  if cs.getLast? = some ')' ∧ '\n' ∉ cs.dropLast then some cs.dropLast else none

def arguments (body : List Char) : List (List Char) := (body.splitOn ',').map Text.trim

/-- the values of the arguments added from the left, starting from the zero below zero -/
def sumOf (body : List Char) : Float :=
  ((arguments body).map Arith.evaluate).foldl (· + ·) (-0)

end FormulaGrid.Formula
