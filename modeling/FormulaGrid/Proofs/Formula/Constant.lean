import FormulaGrid.Proofs.Arith.Meaning
import FormulaGrid.Proofs.Formula.Locality
import FormulaGrid.Proofs.Number.Double

/-!
# Constants

* `Constant`           a numeral, with or without a sign;
* `Constant.derives`   it is a unary part of arithmetic;
* `literalValue_eq`    a text of arithmetic characters counts as what is read from it;
* `Restated`           a constant is a literal on one side and a formula on the other;
* `constant_worth_the_same`   which of the two it is does not matter in any formula.

A literal is read at once, sign and all.  A formula is cut into tokens, and its sign is an operation.
-/

namespace FormulaGrid.Formula

open Arith Number Text

/-! ## two readings of a constant -/

inductive Constant : List Char → Prop where
  | unsigned {text} : Numeral text → Constant text
  | plus {text} : Numeral text → Constant ('+' :: text)
  | minus {text} : Numeral text → Constant ('-' :: text)

theorem Constant.derives {text : List Char} (h : Constant text) (n : Nat) :
    ∃ v, readFloat? text = some v ∧ Derives numeral .unary (n + 2) text v := by
  have hnumeral : ∀ {text}, Numeral text → ∃ d, readUnsigned? text = some d ∧
      readFloat? text = some d.toFloat ∧ ∀ m, Derives numeral .unary (m + 1) text d.toFloat := by
    intro text h
    obtain ⟨d, hd⟩ := h.exists_decimal
    have hread : readFloat? text = some d.toFloat := by rw [h.readFloat?_eq, hd, Option.map_some]
    exact ⟨d, hd, hread, fun _ => .power (.factor (.operand ⟨h, hread⟩))⟩
  cases h with
  | unsigned h =>
    obtain ⟨d, _, hread, hderives⟩ := hnumeral h
    exact ⟨_, hread, hderives (n + 1)⟩
  | plus h =>
    obtain ⟨d, hd, _, hderives⟩ := hnumeral h
    exact ⟨d.toFloat, by rw [readFloat?, hd, Option.map_some], .plus (hderives n)⟩
  | minus h =>
    obtain ⟨d, hd, _, hderives⟩ := hnumeral h
    exact ⟨-d.toFloat, by rw [readFloat?, hd, Option.map_some], .minus (hderives n)⟩

section
variable {text : List Char}

theorem infinityOf?_of_all_isAllowed (h : text.all isAllowed) : infinityOf? text = none := by
  have hword : ∀ w ∈ ["Infinity".toList, "+Infinity".toList, "-Infinity".toList], text ≠ w := by
    have hletters : ∀ w ∈ ["Infinity".toList, "+Infinity".toList, "-Infinity".toList], w.all isAllowed = false := by
      decide
    rintro w hw rfl
    rw [hletters _ hw] at h
    cases h
  rw [infinityOf?, if_neg (not_or.mpr ⟨hword _ (by decide), hword _ (by decide)⟩), if_neg (hword _ (by decide))]

/-- no blank and no letter stands in the way of what is read -/
theorem literalValue_eq (h : text.all isAllowed) : literalValue text = (readFloat? text).getD 0 := by
  have htrim : trim text = text := trim_eq_self _ fun c hc => isBlank_of_isAllowed c (List.all_eq_true.mp h c hc)
  simp only [literalValue, htrim, infinityOf?_of_all_isAllowed h, Option.none_or]

theorem isFormula_of_all_isAllowed (h : text.all isAllowed) : isFormula text = false := by
  have hall := List.all_eq_true.mp h
  have hstart : trimStart text = text := dropWhile_isBlank_eq_self _ fun c hc =>
    isBlank_of_isAllowed c (hall c (List.mem_of_mem_head? hc))
  rw [isFormula, hstart, beq_eq_false_iff_ne]
  exact fun e => absurd (hall '=' (List.mem_of_mem_head? e)) (by decide)

theorem Constant.all_isAllowed (h : Constant text) : text.all isAllowed := by
  obtain ⟨_, _, hderives⟩ := h.derives 0
  exact hderives.all_isAllowed

/-- **A constant is read the same as a literal and as arithmetic.** -/
theorem Constant.read (h : Constant text) :
    readFloat? text = some (literalValue text) ∧ literalValue text = Arith.evaluate text := by
  obtain ⟨v, hread, hderives⟩ := h.derives (maxNesting - 2)
  have hliteral : literalValue text = v := by rw [literalValue_eq h.all_isAllowed, hread, Option.getD_some]
  have hexpression : Derives numeral .expression maxNesting text v := .term (.unary hderives)
  exact ⟨by rw [hread, hliteral], by rw [hliteral, hexpression.evaluate]⟩

end

/-! ## literals are numbers -/

theorem isNaN_toFloat (d : Decimal) : d.toFloat.isNaN = false ∧ (-d.toFloat).isNaN = false :=
  isNaN_ofBits_of_le d.bits d.bits_le

theorem isNaN_infinity : infinity.isNaN = false ∧ (-infinity).isNaN = false :=
  isNaN_ofBits_of_le infinityBits (Nat.le_refl _)

theorem isNaN_of_readFloat? {cs : List Char} {v : Float} (h : readFloat? cs = some v) : v.isNaN = false := by
  unfold readFloat? at h
  split at h
  · obtain ⟨d, _, rfl⟩ := Option.map_eq_some_iff.mp h
    exact (isNaN_toFloat d).2
  · obtain ⟨d, _, rfl⟩ := Option.map_eq_some_iff.mp h
    exact (isNaN_toFloat d).1
  · obtain ⟨d, _, rfl⟩ := Option.map_eq_some_iff.mp h
    exact (isNaN_toFloat d).1

theorem isNaN_of_infinityOf? {cs : List Char} {v : Float} (h : infinityOf? cs = some v) : v.isNaN = false := by
  unfold infinityOf? at h
  split at h
  · obtain rfl := Option.some.inj h
    exact isNaN_infinity.1
  · split at h
    · obtain rfl := Option.some.inj h
      exact isNaN_infinity.2
    · cases h

theorem isNaN_literalValue (cs : List Char) : (literalValue cs).isNaN = false := by
  cases h : (infinityOf? (trim cs)).or (readFloat? (trim cs)) with
  | none =>
    rw [literalValue, h]
    decide
  | some v =>
    rw [literalValue, h]
    rcases Option.or_eq_some_iff.mp h with hinf | ⟨_, hread⟩
    · exact isNaN_of_infinityOf? hinf
    · exact isNaN_of_readFloat? hread

/-! ## literals and formulas in each other's place -/

/-- two texts of a cell: the same, or a constant on one side and the formula of this constant on the other -/
inductive Restated : List Char → List Char → Prop where
  | same (cs) : Restated cs cs
  | asFormula {text} : Constant text → Restated text ('=' :: text)
  | asLiteral {text} : Constant text → Restated ('=' :: text) text

/-- two grids of one size with texts in the same cells, some of them restated -/
structure RestatesConstants (S T : Source) : Prop where
  rows : S.rows = T.rows
  cols : S.cols = T.cols
  raw : ∀ row col, Option.Rel (fun s t => Restated s.toList t.toList) (S.raw row col) (T.raw row col)

theorem contentValue_of_constant (source : Source) (levels : Nat) {text : List Char} (h : Constant text) :
    contentValue source levels text = literalValue text ∧
      contentValue source levels ('=' :: text) = literalValue text := by
  have hall := h.all_isAllowed
  constructor
  · unfold contentValue
    rw [isFormula_of_all_isAllowed hall]
    rfl
  · rw [h.read.2]
    cases levels with
    | zero => rfl
    | succ levels =>
      have hself : substituteWith (operandValue source levels) text = text :=
        substituteWith_eq_self _ _ fun c hc => isUpper_of_isAllowed c (List.all_eq_true.mp hall c hc)
      exact congrArg Arith.evaluate hself

section
variable {S T : Source}

theorem restated_content (h : RestatesConstants S T) (cell : CellRef) : Restated (content S cell) (content T cell) := by
  have htexts : ∀ {s t : Option String}, Option.Rel (fun s t => Restated s.toList t.toList) s t →
      Restated ((s.map String.toList).getD []) ((t.map String.toList).getD []) := by
    rintro _ _ (hrestated | _)
    · exact hrestated
    · exact .same []
  rw [content, content, h.rows, h.cols]
  split
  · exact htexts (h.raw cell.row cell.col)
  · exact .same []

/-- a restated text is worth the same as long as all others are -/
theorem contentValue_of_restated (levels : Nat) {cs ds : List Char} (h : Restated cs ds)
    (hsame : contentValue S levels cs = contentValue T levels cs) :
    contentValue S levels cs = contentValue T levels ds := by
  cases h with
  | same => exact hsame
  | asFormula hc =>
    rw [(contentValue_of_constant S levels hc).1, (contentValue_of_constant T levels hc).2]
  | asLiteral hc =>
    rw [(contentValue_of_constant S levels hc).2, (contentValue_of_constant T levels hc).1]

/-- **A reference has the same value on both sides, at every level.** -/
theorem operandValue_of_restates (h : RestatesConstants S T) (levels : Nat) :
    operandValue S levels = operandValue T levels := by
  have hstep : ∀ levels, (∀ cs, contentValue S levels cs = contentValue T levels cs) →
      operandValue S levels = operandValue T levels := by
    intro levels hsame
    funext letters digits
    rw [operandValue_eq, operandValue_eq]
    cases CellRef.ofParts? letters digits with
    | none => rfl
    | some cell => exact contentValue_of_restated levels (restated_content h cell) (hsame _)
  induction levels with
  | zero => exact hstep 0 fun _ => rfl
  | succ levels ih =>
    refine hstep (levels + 1) fun cs => ?_
    rw [contentValue, contentValue, ih]

theorem evaluate_of_restates (h : RestatesConstants S T) (raw : String) : evaluate S raw = evaluate T raw := by
  have hsub : substitute S = substitute T := by
    funext cs
    exact congrArg (substituteWith · cs) (operandValue_of_restates h maxFormulaDepth)
  unfold evaluate evaluateBody
  rw [hsub]

end

/-- **A constant means the same as a literal and as a formula.** What is read of a signed numeral at once is what
arithmetic makes of it, and so no formula depends on which cells hold constants as literals and which as formulas.
Whatever a literal holds, its value is a number. -/
theorem constant_worth_the_same :
    (∀ text, Constant text → readFloat? text = some (literalValue text) ∧ literalValue text = Arith.evaluate text) ∧
    (∀ S T : Source, RestatesConstants S T → ∀ raw, evaluate S raw = evaluate T raw) ∧
    ∀ cs, (literalValue cs).isNaN = false :=
  ⟨fun _ h => h.read, fun _ _ h raw => evaluate_of_restates h raw, isNaN_literalValue⟩

/-- a constant without digits behind its point, two references away -/
theorem negative_five_two_references_away :
    literalValue "-5.".toList = Arith.evaluate "-5.".toList ∧
      evaluate (threeInARow 1 3 "-5.") "=2**A1" = evaluate (threeInARow 1 3 "=-5.") "=2**A1" := by
  have hconstant : Constant "-5.".toList := .minus (.point ['5'] [] (by decide) rfl rfl)
  have hrestates : RestatesConstants (threeInARow 1 3 "-5.") (threeInARow 1 3 "=-5.") := by
    refine ⟨rfl, rfl, fun row col => ?_⟩
    match row, col with
    | 0, 0 => exact .some (.same _)
    | 0, 1 => exact .some (.same _)
    | 0, 2 => exact .some (.asFormula hconstant)
    | 0, _ + 3 => exact .none
    | _ + 1, _ => exact .none
  exact ⟨(constant_worth_the_same.1 _ hconstant).2, constant_worth_the_same.2.1 _ _ hrestates _⟩

end FormulaGrid.Formula
