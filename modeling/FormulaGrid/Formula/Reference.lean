import FormulaGrid.Arith.Value
import FormulaGrid.Formula.Literal
import FormulaGrid.Formula.Source
import FormulaGrid.Text.Word

/-!
# References inside formulas

* `referenceParts?`   a word that is a reference token, cut into its letters and its digits;
* `operandText`       a number as it is put into a formula: in parentheses when below zero;
* `substituteWith`    a text with each reference token replaced by the text of its value;
* `operandValue`      the value of a reference token;
* `substitute`        a formula with the values of its references in it.

A reference to a literal cell is worth that literal.  A reference to a formula cell is worth its
formula, in which references are replaced in turn as long as there are levels left; below them the
formula is taken as it is, and a reference in it makes it worth `0`.  So cycles end.
-/

namespace FormulaGrid.Formula

open Number

/-! ## tokens and operands -/

/-- the letters and the digits of a word made of capital letters and then digits -/
def referenceParts? (word : List Char) : Option (List Char × List Char) :=
  let letters := word.takeWhile Char.isUpper
  let digits := word.dropWhile Char.isUpper
  if !letters.isEmpty && !digits.isEmpty && digits.all Char.isDigit then some (letters, digits)
  else none

theorem referenceParts?_append (word letters digits : List Char)
    (h : referenceParts? word = some (letters, digits)) : letters ++ digits = word := by
  simp only [referenceParts?, Option.ite_none_right_eq_some, Option.some.injEq, Prod.mk.injEq] at h
  obtain ⟨_, rfl, rfl⟩ := h
  exact List.takeWhile_append_dropWhile

/-- a number as one operand: its sign stays with it inside parentheses -/
def operandText (x : Float) : List Char :=
  let text := write operandStyle x
  if x < 0 then '(' :: text ++ [')'] else text

/-! ## substitution -/

/-- one word or one stretch between words -/
def substituteRun (value : (letters digits : List Char) → Float) (run : List Char) : List Char :=
  match referenceParts? run with
  | some (letters, digits) => operandText (value letters digits)
  | none => run

/-- each reference token that is a whole word gives way to the text of its value -/
def substituteWith (value : (letters digits : List Char) → Float) (cs : List Char) : List Char :=
  (Text.runs cs).flatMap (substituteRun value)

theorem substituteWith_nil (value : (letters digits : List Char) → Float) :
    substituteWith value [] = [] := rfl

/-! ## values -/

/-- the value of a reference token; formulas are followed through `levels` more levels -/
def operandValue (source : Source) : (levels : Nat) → (letters digits : List Char) → Float
  | levels, letters, digits =>
    match source.content? letters digits with
    | none => 0
    | some raw =>
      if isFormula raw then
        match levels with
        | 0 => Arith.evaluate (raw.drop 1)
        | levels + 1 => Arith.evaluate (substituteWith (operandValue source levels) (raw.drop 1))
      else literalValue raw

/-- the levels of formula cells in which references are still replaced -/
def maxFormulaDepth : Nat := 1

/-- the value of a reference token of a formula -/
def resolve (source : Source) (letters digits : List Char) : Float :=
  operandValue source maxFormulaDepth letters digits

def substitute (source : Source) (cs : List Char) : List Char :=
  substituteWith (resolve source) cs

end FormulaGrid.Formula
