import FormulaGrid.Formula.Evaluation
import FormulaGrid.Proofs.Formula.References

/-!
# How far evaluation looks

* `content`        the text at a cell, which is empty outside the grid and where no text is;
* `Names`          a reference of the text stands for the cell;
* `AgreeWithin`    two sources have the same texts so many references away from a text;
* `operandValue_congr`   the value of a reference does not depend on more than that;
* `evaluate_grow`  a grid may grow by empty cells;
* `evaluate_looks_two_references_away`   and an evaluation on no more than two references.
-/

namespace FormulaGrid.Formula

open Text

/-! ## texts of cells -/

/-- the text at a cell, empty outside the grid and where there is none -/
def content (source : Source) (cell : CellRef) : List Char :=
  if cell.inBounds source.rows source.cols then ((source.rawAt cell).map String.toList).getD [] else []

/-- some reference of the text stands for the cell -/
def Names (cs : List Char) (cell : CellRef) : Prop :=
  ∃ r ∈ references cs, CellRef.ofParts? r.1 r.2 = some cell

/-- what a cell with the given text is worth -/
def contentValue (source : Source) (levels : Nat) (cs : List Char) : Float :=
  if isFormula cs then
    match levels with
    | 0 => Arith.evaluate (cs.drop 1)
    | levels + 1 => Arith.evaluate (substituteWith (operandValue source levels) (cs.drop 1))
  else literalValue cs

/-- a missing text counts as an empty one -/
theorem operandValue_eq (source : Source) (levels : Nat) (letters digits : List Char) :
    operandValue source levels letters digits = (CellRef.ofParts? letters digits).elim 0
      fun cell => contentValue source levels (content source cell) := by
  have hcontent : operandValue source levels letters digits =
      (source.content? letters digits).elim 0 (contentValue source levels) := by
    rw [operandValue]
    cases source.content? letters digits with
    | none => rfl
    | some raw => rfl
  rw [hcontent, Source.content?]
  cases hp : CellRef.ofParts? letters digits with
  | none => rfl
  | some cell =>
    rw [Option.elim_some, content]
    by_cases hb : cell.inBounds source.rows source.cols
    · simp only [if_pos hb]
      cases source.rawAt cell with
      | none => rfl
      | some raw => rfl
    · simp only [if_neg hb]
      rfl

theorem references_drop (cs : List Char) (h : isFormula cs) : references (cs.drop 1) = references cs := by
  cases cs with
  | nil => rfl
  | cons c cs =>
    have hc : isWord c = false := by
      rw [isFormula, trimStart_cons] at h
      by_cases hb : isBlank c
      · exact isWord_of_isBlank c hb
      · rw [if_neg hb] at h
        obtain rfl : c = '=' := by simpa using h
        decide
    rw [references_cons c cs hc]
    rfl

/-! ## agreement -/

/-- the sources have the same texts at the cells that the text names, and so many references away -/
def AgreeWithin (S T : Source) : (hops : Nat) → List Char → Prop
  | 0, _ => True
  | hops + 1, cs => ∀ cell, Names cs cell → content S cell = content T cell ∧
      (isFormula (content S cell) → AgreeWithin S T hops (content S cell))

/-- **The value of a reference depends on as many texts as there are levels.** -/
theorem operandValue_congr (S T : Source) (levels : Nat) (cs : List Char)
    (h : AgreeWithin S T (levels + 1) cs) (r : List Char × List Char) (hr : r ∈ references cs) :
    operandValue S levels r.1 r.2 = operandValue T levels r.1 r.2 := by
  induction levels generalizing cs r with
  | zero =>
    rw [operandValue_eq, operandValue_eq]
    cases hp : CellRef.ofParts? r.1 r.2 with
    | none => rfl
    | some cell =>
      obtain ⟨hc, _⟩ := h cell ⟨r, hr, hp⟩
      show contentValue S 0 (content S cell) = contentValue T 0 (content T cell)
      rw [← hc]
      rfl
  | succ levels ih =>
    rw [operandValue_eq, operandValue_eq]
    cases hp : CellRef.ofParts? r.1 r.2 with
    | none => rfl
    | some cell =>
      obtain ⟨hc, hagree⟩ := h cell ⟨r, hr, hp⟩
      show contentValue S (levels + 1) (content S cell) = contentValue T (levels + 1) (content T cell)
      rw [← hc, contentValue, contentValue]
      split
      · next hf =>
        have hsub : substituteWith (operandValue S levels) ((content S cell).drop 1) =
            substituteWith (operandValue T levels) ((content S cell).drop 1) := by
          apply substituteWith_congr
          intro r' hr'
          rw [references_drop _ hf] at hr'
          exact ih (content S cell) (hagree hf) r' hr'
        show Arith.evaluate (substituteWith (operandValue S levels) _) = Arith.evaluate _
        rw [hsub]
      · rfl

theorem evaluate_congr (S T : Source) (raw : String)
    (h : AgreeWithin S T (maxFormulaDepth + 1) raw.toList) : evaluate S raw = evaluate T raw := by
  unfold evaluate
  split
  · next cs e =>
    have hsub : substitute S (trim cs) = substitute T (trim cs) := by
      apply substituteWith_congr
      intro r hr
      rw [references_trim, ← references_cons '=' cs (by decide), ← e] at hr
      exact operandValue_congr S T maxFormulaDepth raw.toList h r hr
    unfold evaluateBody
    rw [hsub]
  · rfl

/-- cells that are added without texts or with empty texts do not matter -/
theorem evaluate_grow (S T : Source) (hrows : S.rows ≤ T.rows) (hcols : S.cols ≤ T.cols)
    (hin : ∀ cell : CellRef, cell.inBounds S.rows S.cols → T.rawAt cell = S.rawAt cell)
    (hout : ∀ cell : CellRef, ¬ cell.inBounds S.rows S.cols → ∀ raw ∈ T.rawAt cell, raw = "")
    (raw : String) : evaluate S raw = evaluate T raw := by
  have hcontent : ∀ cell, content S cell = content T cell := by
    intro cell
    unfold content
    by_cases hs : cell.inBounds S.rows S.cols
    · have ht : cell.inBounds T.rows T.cols := by
        simp only [CellRef.inBounds, Bool.and_eq_true, decide_eq_true_eq] at hs ⊢
        omega
      rw [if_pos hs, if_pos ht, hin cell hs]
    · rw [if_neg hs]
      split
      · cases hr : T.rawAt cell with
        | none => rfl
        | some text => rw [hout cell hs text hr]; rfl
      · rfl
  have hagree : ∀ hops cs, AgreeWithin S T hops cs := by
    intro hops
    induction hops with
    | zero => exact fun _ => trivial
    | succ hops ih => exact fun cs cell _ => ⟨hcontent cell, fun _ => ih _⟩
  exact evaluate_congr S T raw (hagree _ _)

/-- **Evaluation looks at most two references away and at nothing but texts of cells.**  Two sources of
any sizes give the same evaluation of a text if they have the same texts at the cells that it names,
and at the cells that the formulas among these texts name. -/
theorem evaluate_looks_two_references_away (S T : Source) (raw : String)
    (hone : ∀ cell, Names raw.toList cell → content S cell = content T cell)
    (htwo : ∀ cell, Names raw.toList cell → isFormula (content S cell) →
      ∀ cell', Names (content S cell) cell' → content S cell' = content T cell') :
    evaluate S raw = evaluate T raw := by
  apply evaluate_congr
  intro cell hcell
  exact ⟨hone cell hcell, fun hf cell' hcell' => ⟨htwo cell hcell hf cell' hcell', fun _ => trivial⟩⟩

/-- a cell that refers to a cell that refers to a cell -/
def threeInARow (rows cols : Nat) (last : String) : Source where
  rows := rows
  cols := cols
  raw
    | 0, 0 => some "=B1+1"
    | 0, 1 => some "=C1"
    | 0, 2 => some last
    | _, _ => none

theorem evaluate_threeInARow :
    content (threeInARow 1 3 "5") ⟨0, 2⟩ ≠ content (threeInARow 4 9 "=A1") ⟨0, 2⟩ ∧
      evaluate (threeInARow 1 3 "5") "=A1" = evaluate (threeInARow 4 9 "=A1") "=A1" := by
  have hrefs : references "=A1".toList = [(['A'], ['1'])] := by decide +kernel
  have hcell : ∀ cell, Names "=A1".toList cell → cell = ⟨0, 0⟩ := by
    rintro cell ⟨r, hr, hp⟩
    rw [hrefs, List.mem_singleton] at hr
    rw [hr] at hp
    exact (Option.some.inj hp).symm
  have hrefs' : references "=B1+1".toList = [(['B'], ['1'])] := by decide +kernel
  have hcell' : ∀ cell, Names "=B1+1".toList cell → cell = ⟨0, 1⟩ := by
    rintro cell ⟨r, hr, hp⟩
    rw [hrefs', List.mem_singleton] at hr
    rw [hr] at hp
    exact (Option.some.inj hp).symm
  refine ⟨by decide, evaluate_looks_two_references_away _ _ "=A1" ?_ ?_⟩
  · intro cell h
    rw [hcell cell h]
    rfl
  · intro cell h _ cell' h'
    rw [hcell cell h] at h'
    rw [hcell' cell' h']
    rfl

end FormulaGrid.Formula
