import FormulaGrid.Formula.Reference
import FormulaGrid.Proofs.Arith.Grammar
import FormulaGrid.Proofs.Number.ReadBack

/-!
# Numbers as operands

* `operandText_of_lt_zero`, `operandText_of_not_lt_zero`, `operandText_neg_zero`   the text of a finite
                          number: parentheses go with a sign, but for the zero below zero, which has
                          the sign and no parentheses;
* `derives_operandText_iff`   the text is one factor, with the number as its value, for every number
                          but that zero;
* `derives_unary_operandText`   as a unary part it always has its value.
-/

namespace FormulaGrid.Formula

open Arith Number

/-! ## the text -/

section
variable (x : Float) (hf : x.isFinite = true)
include hf

theorem isNegative_of_lt_zero (h : x < 0) : isNegative x = true := ((lt_zero_iff x hf).mp h).1

theorem isNegative_of_not_lt_zero (h : ¬ x < 0) (hz : x ≠ -0) : isNegative x = false := by
  apply Bool.eq_false_iff.mpr
  intro hn
  by_cases hm : magnitude x = 0
  · exact hz ((eq_neg_zero_iff x).mpr ⟨hn, hm⟩)
  · exact h ((lt_zero_iff x hf).mpr ⟨hn, hm⟩)

theorem operandText_of_lt_zero (h : x < 0) :
    operandText x = '(' :: ('-' :: magnitudeText x) ++ [')'] := by
  rw [operandText, if_pos h, write_operandStyle x hf, if_pos (isNegative_of_lt_zero x hf h)]

theorem operandText_of_not_lt_zero (h : ¬ x < 0) (hz : x ≠ -0) : operandText x = magnitudeText x := by
  have hs := isNegative_of_not_lt_zero x hf h hz
  rw [operandText, if_neg h, write_operandStyle x hf, hs]
  rfl

end

theorem magnitude_neg_zero : magnitude (-0) = 0 := ((eq_neg_zero_iff (-0)).mp rfl).2

theorem isFinite_neg_zero : (-0 : Float).isFinite = true := by
  rw [isFinite_iff, magnitude_neg_zero]
  decide

theorem magnitudeText_neg_zero : magnitudeText (-0) = ['0'] := by
  rw [magnitudeText, magnitude_neg_zero]
  decide +kernel

/-- the zero below zero is not below zero -/
theorem operandText_neg_zero : operandText (-0) = ['-', '0'] := by
  have hs : isNegative (-0) = true := ((eq_neg_zero_iff (-0)).mp rfl).1
  have hlt : ¬ (-0 : Float) < 0 := fun h => ((lt_zero_iff _ isFinite_neg_zero).mp h).2 magnitude_neg_zero
  rw [operandText, if_neg hlt, write_operandStyle _ isFinite_neg_zero, if_pos hs, magnitudeText_neg_zero]

/-! ## its derivations -/

section
variable (x : Float) (hf : x.isFinite = true) (n : Nat)
include hf

theorem derives_magnitudeText :
    Derives numeral .factor n (magnitudeText x) (Float.ofBits (magnitude x).toUInt64) :=
  .operand ⟨numeral_magnitudeText x, readFloat?_magnitudeText x hf⟩

/-- with its sign it is a unary part, two levels higher -/
theorem derives_signed (hs : isNegative x = true) :
    Derives numeral .unary (n + 2) ('-' :: magnitudeText x) x := by
  have h := Derives.minus (.power (.factor (derives_magnitudeText x hf n)))
  rwa [neg_ofBits_magnitude x hf hs] at h

theorem derives_operandText (hz : x ≠ -0) (hn : x < 0 → 2 ≤ n) :
    Derives numeral .factor n (operandText x) x := by
  by_cases h : x < 0
  · obtain ⟨k, rfl⟩ := Nat.exists_eq_add_of_le' (hn h)
    rw [operandText_of_lt_zero x hf h]
    exact .group (.term (.unary (derives_signed x hf k (isNegative_of_lt_zero x hf h))))
  · have hd := derives_magnitudeText x hf n
    rw [operandText_of_not_lt_zero x hf h hz]
    rwa [ofBits_magnitude x (isNegative_of_not_lt_zero x hf h hz)] at hd

theorem derives_unary_operandText : Derives numeral .unary (n + 3) (operandText x) x := by
  by_cases hz : x = -0
  · have hs := ((eq_neg_zero_iff x).mp hz).1
    have e : operandText x = '-' :: magnitudeText x := by
      rw [hz, operandText_neg_zero, magnitudeText_neg_zero]
    rw [e]
    exact derives_signed x hf (n + 1) hs
  · exact .power (.factor (derives_operandText x hf (n + 2) hz fun _ => Nat.le_add_left 2 n))

end

theorem derives_zero (n : Nat) : Derives numeral .factor n ['0'] 0 := by
  have h := derives_magnitudeText (-0) isFinite_neg_zero n
  rw [magnitudeText_neg_zero, magnitude_neg_zero] at h
  exact h

theorem head_of_factor (n : Nat) (s : List Char) (v : Float) (h : Derives numeral .factor n s v) :
    s.head? ≠ some '-' := by
  intro e
  cases h with
  | operand h =>
    obtain ⟨c, cs, rfl, hc⟩ := h.1.head
    obtain rfl := Option.some.inj e
    exact absurd hc (by decide)
  | group h => exact absurd e (by simp)

/-- **All finite numbers but one are written as factors.** -/
theorem derives_operandText_iff (x : Float) (hf : x.isFinite = true) (n : Nat) :
    Derives numeral .factor (n + 2) (operandText x) x ↔ x ≠ -0 := by
  constructor
  · rintro h rfl
    apply head_of_factor _ _ _ h
    rw [operandText_neg_zero]
    rfl
  · intro hz
    exact derives_operandText x hf (n + 2) hz fun _ => Nat.le_add_left 2 n

end FormulaGrid.Formula
