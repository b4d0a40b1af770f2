import FormulaGrid.Proofs.Formula.References
import FormulaGrid.Proofs.Formula.Sum

/-!
# What a formula cell shows and what it is worth

* `Settled`             a reference that leads to no cell, to a literal, or to a formula without references;
* `operandValue_of_settled`   it is worth the same however many levels of formulas may be followed;
* `operandValue_succ`   a formula is worth its body with the references in it replaced, one level down;
* `evaluate_eq_resolve` so a formula whose references are settled shows the number that its cell is worth.

A cell is shown with one level more than it is worth in other formulas: the references in its body are replaced
from the first level when it is shown, and from the second when another formula refers to it.
-/

namespace FormulaGrid.Formula

open Text

/-! ## references that need no further level -/

/-- a reference to no cell of the grid that has a text, to a literal cell, or to a formula cell whose text behind
its first character has no references -/
inductive Settled (source : Source) (letters digits : List Char) : Prop where
  | outside : source.content? letters digits = none → Settled source letters digits
  | literal (raw) : source.content? letters digits = some raw → isFormula raw = false →
      Settled source letters digits
  | formula (raw) : source.content? letters digits = some raw → isFormula raw = true →
      references (raw.drop 1) = [] → Settled source letters digits

section
variable {source : Source} {letters digits raw : List Char}

theorem operandValue_zero (h : source.content? letters digits = some raw) (hformula : isFormula raw = true) :
    operandValue source 0 letters digits = Arith.evaluate (raw.drop 1) := by
  rw [operandValue, h]
  exact if_pos hformula

/-- a formula is worth its body, with the references in it replaced one level down -/
theorem operandValue_succ (h : source.content? letters digits = some raw) (hformula : isFormula raw = true)
    (levels : Nat) : operandValue source (levels + 1) letters digits =
      Arith.evaluate (substituteWith (operandValue source levels) (raw.drop 1)) := by
  rw [operandValue, h]
  exact if_pos hformula

/-- **A settled reference is worth the same at every level.** -/
theorem operandValue_of_settled (h : Settled source letters digits) (levels : Nat) :
    operandValue source levels letters digits = operandValue source 0 letters digits := by
  cases h with
  | outside hnone => rw [operandValue, operandValue, hnone]
  | literal raw hraw hliteral =>
    rw [operandValue, operandValue, hraw]
    simp only [hliteral]
    rfl
  | formula raw hraw hformula hrefs =>
    cases levels with
    | zero => rfl
    | succ levels =>
      rw [operandValue_succ hraw hformula, operandValue_zero hraw hformula,
        substituteWith_of_no_references _ _ hrefs]

end

/-! ## shown and worth -/

/-- **A formula cell is worth what it shows**, if its references are settled: a formula that is no sum, without
blanks at its ends, is shown as the very number that any reference to its cell stands for. -/
theorem evaluate_eq_resolve (source : Source) (cell : CellRef) (raw : String) (body : List Char)
    (hin : cell.inBounds source.rows source.cols) (hcell : source.rawAt cell = some raw)
    (hbody : raw.toList = '=' :: body) (hhead : ∀ c ∈ body.head?, isBlank c = false)
    (hlast : ∀ c ∈ body.getLast?, isBlank c = false) (hsum : ∀ rest, ¬ OpensSum body rest)
    (hsettled : ∀ r ∈ references body, Settled source r.1 r.2) (letters digits : List Char)
    (hname : CellRef.ofParts? letters digits = some cell) :
    evaluate source raw = .number (resolve source letters digits) := by
  have hcontent : source.content? letters digits = some ('=' :: body) := by
    rw [Source.content?, hname]
    show (if cell.inBounds source.rows source.cols then (source.rawAt cell).map String.toList else none) = _
    rw [if_pos hin, hcell, Option.map_some, hbody]
  have htrim : trim body = body := trim_eq_self_of_ends body hhead hlast
  have hnone : afterSum? (trim body) = none := by
    rw [htrim]
    exact (afterSum?_eq_none_iff body).mpr hsum
  -- on either side the references of the body are replaced by their values, which no level changes
  have hsame : substitute source body = substituteWith (operandValue source 0) body :=
    substituteWith_congr _ _ body fun r hr => operandValue_of_settled (hsettled r hr) maxFormulaDepth
  rw [evaluate_of_no_sum source raw body hbody hnone, htrim, hsame]
  show _ = Evaluation.number (operandValue source (0 + 1) letters digits)
  rw [operandValue_succ hcontent rfl]
  rfl

/-- a formula over a literal, over two formulas without references, and over a cell outside -/
def overSettled : Source where
  rows := 1
  cols := 4
  raw
    | 0, 0 => some "=B1*C1-D1**Z9"
    | 0, 1 => some " -2 "
    | 0, 2 => some "=4/3"
    | 0, 3 => some " =7"
    | _, _ => none

theorem evaluate_overSettled :
    evaluate overSettled "=B1*C1-D1**Z9" = .number (resolve overSettled ['A'] ['1']) := by
  have hrefs : references "B1*C1-D1**Z9".toList = [(['B'], ['1']), (['C'], ['1']), (['D'], ['1']), (['Z'], ['9'])] := by
    decide +kernel
  have hsettled : ∀ r ∈ references "B1*C1-D1**Z9".toList, Settled overSettled r.1 r.2 := by
    rw [hrefs]
    simp only [List.forall_mem_cons]
    refine ⟨.literal " -2 ".toList rfl rfl, .formula "=4/3".toList rfl rfl ?_, .formula " =7".toList rfl rfl ?_,
      .outside rfl, fun _ h => nomatch h⟩
    · decide +kernel
    · decide +kernel
  have hsum : ∀ rest, ¬ OpensSum "B1*C1-D1**Z9".toList rest := (afterSum?_eq_none_iff _).mp rfl
  have hhead : ∀ c ∈ "B1*C1-D1**Z9".toList.head?, isBlank c = false := by
    rintro _ ⟨⟩
    decide
  have hlast : ∀ c ∈ "B1*C1-D1**Z9".toList.getLast?, isBlank c = false := by
    rintro _ ⟨⟩
    decide
  exact evaluate_eq_resolve overSettled ⟨0, 0⟩ "=B1*C1-D1**Z9" _ (by decide) rfl rfl hhead hlast hsum hsettled
    ['A'] ['1'] rfl

end FormulaGrid.Formula
