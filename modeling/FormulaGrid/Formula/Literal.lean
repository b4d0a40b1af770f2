import FormulaGrid.Number.Written
import FormulaGrid.Text.Blank

/-!
# Literal cells

* `isFormula`      the text is to be shown as the result of a formula;
* `literalValue`   the number that a literal text counts as.
-/

namespace FormulaGrid.Formula

open Number

/-- the first character after leading blanks is `=` -/
def isFormula (cs : List Char) : Bool := (Text.trimStart cs).head? == some '='

def infinity : Float := Float.ofBits infinityBits.toUInt64

/-- the words for infinities, with an optional sign -/
def infinityOf? (cs : List Char) : Option Float :=
  if cs = "Infinity".toList ∨ cs = "+Infinity".toList then some infinity
  else if cs = "-Infinity".toList then some (-infinity)
  else none

/-- a decimal numeral or a word for an infinity, blanks around it aside; all else is `0` -/
def literalValue (cs : List Char) : Float :=
  let text := Text.trim cs
  ((infinityOf? text).or (readFloat? text)).getD 0

end FormulaGrid.Formula
