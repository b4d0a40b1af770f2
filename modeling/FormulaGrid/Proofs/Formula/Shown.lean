import FormulaGrid.Proofs.Formula.Constant
import FormulaGrid.Proofs.Formula.Operand

/-!
# Shown numbers

* `Shown`            the texts of shown numbers: words for what is not finite, and constants;
* `shown_display`    what a number is shown as;
* `Shown.literalValue_eq`, `Shown.evaluate_eq`   what the text counts as in a cell and in a formula;
* `display_eq_iff`   the numbers that are shown the same;
* `shown_reads_back` the three for all 64 bits.

The zero below zero is shown as the other zero, and NaN as a word that is no number.  All other doubles are read
back to the last bit.
-/

namespace FormulaGrid.Formula

open Arith Number Text

/-! ## what a number is shown as -/

/-- a number and its text in the grid -/
inductive Shown : Float → List Char → Prop where
  | nan {x} : x.isNaN = true → Shown x "NaN".toList
  | infinity : Shown infinity "Infinity".toList
  | negInfinity : Shown (-infinity) "-Infinity".toList
  | negZero : Shown (-0) ['0']
  | finite {x text} : x.isFinite = true → x ≠ -0 → Constant text → Arith.evaluate text = x → Shown x text

theorem shown_finite (x : Float) (hf : x.isFinite = true) : Shown x (write displayStyle x) := by
  have hnumeral := numeral_magnitudeText x
  rw [write_finite displayStyle x hf]
  cases hs : isNegative x with
  | true =>
    by_cases hm : magnitude x = 0
    · obtain rfl := (eq_neg_zero_iff x).mpr ⟨hs, hm⟩
      rw [hm, magnitudeText_neg_zero]
      exact .negZero
    · have hz : x ≠ -0 := fun e => hm ((eq_neg_zero_iff x).mp e).2
      have hsign : (true && (displayStyle.signedZero || magnitude x != 0)) = true := bne_iff_ne.mpr hm
      rw [if_pos hsign]
      exact .finite hf hz (.minus hnumeral) (Derives.term (.unary (derives_signed x hf (maxNesting - 2) hs))).evaluate
  | false =>
    have hz : x ≠ -0 := fun e => by
      rw [((eq_neg_zero_iff x).mp e).1] at hs
      cases hs
    have hd := derives_magnitudeText x hf (maxNesting - 1)
    rw [ofBits_magnitude x hs] at hd
    exact .finite hf hz (.unsigned hnumeral) (Derives.term (.unary (.power (.factor hd)))).evaluate

theorem shown_infinite (x : Float) (hn : x.isNaN = false) (hf : x.isFinite = false) :
    Shown x (write displayStyle x) := by
  have hm := magnitude_eq_infinityBits x hn hf
  rw [write_infinite displayStyle x hm]
  cases hs : isNegative x with
  | true =>
    have hx : -infinity = x := by rw [infinity, ← hm, neg_ofBits_magnitude_of_not_nan x hn hs]
    rw [← hx]
    exact .negInfinity
  | false =>
    have hx : infinity = x := by rw [infinity, ← hm, ofBits_magnitude x hs]
    rw [← hx]
    exact .infinity

theorem shown_display (x : Float) : Shown x (display x).toList := by
  rw [display, String.toList_ofList]
  cases hn : x.isNaN with
  | true =>
    rw [write_nan displayStyle x hn]
    exact .nan hn
  | false =>
    cases hf : x.isFinite with
    | true => exact shown_finite x hf
    | false => exact shown_infinite x hn hf

/-! ## what is read of it -/

section
variable {x : Float} {text : List Char}

theorem Shown.literalValue_eq (h : Shown x text) (hn : x.isNaN = false) (hz : x ≠ -0) : literalValue text = x := by
  cases h with
  | nan h =>
    rw [h] at hn
    cases hn
  | infinity => decide +kernel
  | negInfinity => decide +kernel
  | negZero => exact absurd rfl hz
  | finite _ _ hconstant hvalue => rw [hconstant.read.2, hvalue]

theorem Shown.literalValue_eq_zero (h : Shown x text) (hx : x.isNaN = true ∨ x = -0) : literalValue text = 0 := by
  cases h with
  | nan => decide +kernel
  | infinity => exact absurd hx (by decide +kernel)
  | negInfinity => exact absurd hx (by decide +kernel)
  | negZero => decide +kernel
  | finite hf hz =>
    rcases hx with hn | hx
    · rw [isNaN_of_isFinite x hf] at hn
      cases hn
    · exact absurd hx hz

theorem Shown.evaluate_eq (h : Shown x text) (hf : x.isFinite = true) (hz : x ≠ -0) : Arith.evaluate text = x := by
  cases h with
  | nan h =>
    rw [isNaN_of_isFinite x hf] at h
    cases h
  | infinity => exact absurd hf (by decide +kernel)
  | negInfinity => exact absurd hf (by decide +kernel)
  | negZero => exact absurd rfl hz
  | finite _ _ _ hvalue => exact hvalue

/-- the word for NaN is shown for nothing else -/
theorem Shown.eq_nan_iff (h : Shown x text) : text = "NaN".toList ↔ x.isNaN = true := by
  cases h with
  | nan h => exact iff_of_true rfl h
  | infinity => exact iff_of_false (by decide) (by decide +kernel)
  | negInfinity => exact iff_of_false (by decide) (by decide +kernel)
  | negZero => exact iff_of_false (by decide) (by decide +kernel)
  | finite hf _ hconstant =>
    refine iff_of_false ?_ (Bool.eq_false_iff.mp (isNaN_of_isFinite x hf))
    rintro rfl
    exact absurd hconstant.all_isAllowed (by decide)

end

/-! ## numbers that are shown the same -/

/-- one of the two zeros -/
def IsZero (x : Float) : Prop := x = 0 ∨ x = -0

theorem display_of_isZero (x : Float) (h : IsZero x) : display x = "0" := by
  rcases h with rfl | rfl
  · decide +kernel
  · decide +kernel

theorem display_of_isNaN (x : Float) (h : x.isNaN = true) : display x = "NaN" :=
  String.toList_inj.mp ((shown_display x).eq_nan_iff.mpr h)

/-- **Two numbers are shown the same if they are one number, both zero or both NaN, and only then.** -/
theorem display_eq_iff (x y : Float) :
    display x = display y ↔ x = y ∨ (IsZero x ∧ IsZero y) ∨ (x.isNaN = true ∧ y.isNaN = true) := by
  have hx := shown_display x
  have hy := shown_display y
  constructor
  · intro h
    rw [← h] at hy
    cases hn : x.isNaN with
    | true => exact Or.inr (Or.inr ⟨rfl, hy.eq_nan_iff.mp (hx.eq_nan_iff.mpr hn)⟩)
    | false =>
      have hn' : y.isNaN = false := by
        rw [Bool.eq_false_iff] at hn ⊢
        exact fun e => hn (hx.eq_nan_iff.mp (hy.eq_nan_iff.mpr e))
      -- both texts are one, and either number is what this text counts as, or the zero that it is not
      by_cases hz : x = -0
      · by_cases hz' : y = -0
        · exact Or.inl (hz.trans hz'.symm)
        · have e : y = 0 := (hy.literalValue_eq hn' hz').symm.trans (hx.literalValue_eq_zero (Or.inr hz))
          exact Or.inr (Or.inl ⟨Or.inr hz, Or.inl e⟩)
      · by_cases hz' : y = -0
        · have e : x = 0 := (hx.literalValue_eq hn hz).symm.trans (hy.literalValue_eq_zero (Or.inr hz'))
          exact Or.inr (Or.inl ⟨Or.inl e, Or.inr hz'⟩)
        · exact Or.inl ((hx.literalValue_eq hn hz).symm.trans (hy.literalValue_eq hn' hz'))
  · rintro (rfl | ⟨hx, hy⟩ | ⟨hx, hy⟩)
    · rfl
    · rw [display_of_isZero x hx, display_of_isZero y hy]
    · rw [display_of_isNaN x hx, display_of_isNaN y hy]

/-- **What is shown reads back to the last bit.** All bits of a double that is neither NaN nor the zero below zero
come back from its text in a literal cell, and for a finite one also from its text in a formula.  The text of NaN
and that of the zero below zero count as `0`.  Two doubles have one text only if they have the same bits, are both
zero or are both NaN. -/
theorem shown_reads_back :
    (∀ b : UInt64, (Float.ofBits b).isNaN = false → Float.ofBits b ≠ -0 →
      (literalValue (display (Float.ofBits b)).toList).toBits = b) ∧
    (∀ b : UInt64, (Float.ofBits b).isNaN = true ∨ Float.ofBits b = -0 →
      literalValue (display (Float.ofBits b)).toList = 0) ∧
    (∀ b : UInt64, (Float.ofBits b).isFinite = true → Float.ofBits b ≠ -0 →
      (Arith.evaluate (display (Float.ofBits b)).toList).toBits = b) ∧
    ∀ a b : UInt64, display (Float.ofBits a) = display (Float.ofBits b) ↔
      a = b ∨ (IsZero (Float.ofBits a) ∧ IsZero (Float.ofBits b)) ∨
        ((Float.ofBits a).isNaN = true ∧ (Float.ofBits b).isNaN = true) := by
  refine ⟨fun b hn hz => ?_, fun b h => (shown_display _).literalValue_eq_zero h, fun b hf hz => ?_, fun a b => ?_⟩
  · rw [(shown_display _).literalValue_eq hn hz, toBits_ofBits b hn]
  · rw [(shown_display _).evaluate_eq hf hz, toBits_ofBits b (isNaN_of_isFinite _ hf)]
  · rw [display_eq_iff]
    constructor
    · rintro (e | h)
      · cases hn : (Float.ofBits a).isNaN with
        | true => exact Or.inr (Or.inr ⟨rfl, by rw [← e, hn]⟩)
        | false =>
          have hn' : (Float.ofBits b).isNaN = false := by rw [← e, hn]
          exact Or.inl (by rw [← toBits_ofBits a hn, e, toBits_ofBits b hn'])
      · exact Or.inr h
    · exact Or.imp_left (congrArg Float.ofBits)

/-- the infinity below zero, the zero below zero, the double next to it, and two of the NaNs -/
theorem infinity_zero_least_and_nans :
    (literalValue (display (Float.ofBits 0xFFF0000000000000)).toList).toBits = 0xFFF0000000000000 ∧
      literalValue (display (Float.ofBits 0x8000000000000000)).toList = 0 ∧
      (Arith.evaluate (display (Float.ofBits 0x8000000000000001)).toList).toBits = 0x8000000000000001 ∧
      display (Float.ofBits 0x7FF0000000000001) = display (Float.ofBits 0xFFF8000000000000) := by
  obtain ⟨hliteral, hzero, hevaluate, hsame⟩ := shown_reads_back
  exact ⟨hliteral _ (by decide +kernel) (by decide +kernel), hzero _ (Or.inr (by decide +kernel)),
    hevaluate _ (by decide +kernel) (by decide +kernel),
    (hsame _ _).mpr (Or.inr (Or.inr ⟨by decide +kernel, by decide +kernel⟩))⟩

end FormulaGrid.Formula
