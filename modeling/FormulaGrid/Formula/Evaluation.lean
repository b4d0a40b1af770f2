import FormulaGrid.Formula.Aggregate
import FormulaGrid.Formula.Reference

/-!
# What a cell evaluates to

* `Evaluation`         a text, a number or the mark of an error;
* `Evaluation.shown`   its text in the grid;
* `evaluate`           the evaluation of a raw text against a source.

A text that does not begin with `=` stands for itself.  After `=`, blanks at the ends aside, stands
a sum or an arithmetic expression with references.  A sum that is not closed is the only error.
-/

namespace FormulaGrid

inductive Evaluation where
  | text (s : String)
  | number (x : Float)
  | error

def errorMarker : String := "#ERR"

def Evaluation.shown : Evaluation → String
  | .text s => s
  | .number x => Number.display x
  | .error => errorMarker

namespace Formula

/-- a formula without its `=` and without blanks at its ends -/
def evaluateBody (source : Source) (cs : List Char) : Evaluation :=
  match afterSum? cs with
  | some rest =>
    match sumBody? rest with
    | some body => .number (sumOf body)
    | none => .error
  | none => .number (Arith.evaluate (substitute source cs))

def evaluate (source : Source) (raw : String) : Evaluation :=
  match raw.toList with
  | '=' :: cs => evaluateBody source (Text.trim cs)
  | _ => .text raw

end Formula

end FormulaGrid
