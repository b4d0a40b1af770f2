import FormulaGrid.Proofs.Formula.Scan
import FormulaGrid.Proofs.Formula.Worth

/-!
# What is outside arithmetic

* `Rejected`   a text with a character outside arithmetic that belongs to no reference, or with a reference
               whose value is not finite;
* `all_isAllowed_operandText_iff`, `chars_operandText`   what is written for a value;
* `all_isAllowed_substituteWith_iff`   substitution neither hides what is rejected nor brings in anything else;
* `rejected_is_zero`   what is rejected is worth `0`, in a formula and in the formula cells that it refers to.
-/

namespace FormulaGrid.Formula

open Arith Number Text

/-- a text that is no arithmetic, whatever stands around the fault -/
inductive Rejected (value : (letters digits : List Char) → Float) (cs : List Char) : Prop where
  /-- a character outside arithmetic in a word or a stretch that is no reference -/
  | character (parts part c) : Cut cs parts → part ∈ parts →
      (∀ letters digits, IsReference letters digits → part ≠ letters ++ digits) →
      c ∈ part → isAllowed c = false → Rejected value cs
  /-- a reference with an infinite value or with none -/
  | reference (parts letters digits) : Cut cs parts → IsReference letters digits → letters ++ digits ∈ parts →
      (value letters digits).isFinite = false → Rejected value cs

/-! ## what is written for a value -/

/-- the characters that the text of a number may have -/
def operandSigns : List Char := ['.', '-', '(', ')']

theorem chars_magnitudeText (x : Float) (c : Char) (h : c ∈ magnitudeText x) : c.isDigit ∨ c ∈ operandSigns := by
  rcases (numeral_magnitudeText x).mem _ c h with hd | rfl
  · exact Or.inl hd
  · exact Or.inr (by decide)

theorem chars_operandText_of_finite (x : Float) (hf : x.isFinite = true) (c : Char) (h : c ∈ operandText x) :
    c.isDigit ∨ c ∈ operandSigns := by
  by_cases hlt : x < 0
  · rw [operandText_of_lt_zero x hf hlt, List.mem_append, List.mem_cons, List.mem_cons, List.mem_singleton] at h
    rcases h with (rfl | rfl | h) | rfl
    · exact Or.inr (by decide)
    · exact Or.inr (by decide)
    · exact chars_magnitudeText x c h
    · exact Or.inr (by decide)
  · by_cases hz : x = -0
    · rw [hz, operandText_neg_zero, List.mem_cons, List.mem_singleton] at h
      rcases h with rfl | rfl
      · exact Or.inr (by decide)
      · exact Or.inl (by decide)
    · rw [operandText_of_not_lt_zero x hf hlt hz] at h
      exact chars_magnitudeText x c h

/-- a value is written with digits, a point, a sign and parentheses, or with a word that is no number -/
theorem chars_operandText (x : Float) : (∀ c ∈ operandText x, c.isDigit ∨ c ∈ operandSigns) ∨
    "inf".toList <:+: operandText x ∨ "NaN".toList <:+: operandText x := by
  cases hf : x.isFinite with
  | true => exact Or.inl (chars_operandText_of_finite x hf)
  | false =>
    right
    have hwords : ∀ w ∈ nonFiniteWords, "inf".toList <:+: w ∨ "NaN".toList <:+: w := by decide
    obtain ⟨w, hw, e⟩ := operandText_of_not_finite x hf
    have hin : w <:+: operandText x := by
      rcases e with e | e
      · exact ⟨[], [], by rw [e, List.nil_append, List.append_nil]⟩
      · exact ⟨['('], [')'], e.symm⟩
    exact (hwords w hw).imp (fun h => h.trans hin) fun h => h.trans hin

/-- **Arithmetic admits what is written for a value if and only if the value is finite.** -/
theorem all_isAllowed_operandText_iff (x : Float) : (operandText x).all isAllowed = true ↔ x.isFinite = true := by
  cases hf : x.isFinite with
  | true => exact iff_of_true (derives_unary_operandText x hf 0).all_isAllowed rfl
  | false =>
    have hwords : ∀ w ∈ nonFiniteWords, w.all isAllowed = false ∧ ('(' :: w ++ [')']).all isAllowed = false := by
      decide
    obtain ⟨w, hw, e | e⟩ := operandText_of_not_finite x hf
    · rw [e, (hwords w hw).1]
    · rw [e, (hwords w hw).2]

/-! ## after substitution -/

section
variable {value : (letters digits : List Char) → Float} {cs : List Char}

theorem Replaces.all_isAllowed {part out : List Char} (h : Replaces value part out) (hcut : part ∈ runs cs)
    (hno : ¬ Rejected value cs) : out.all isAllowed = true := by
  cases h with
  | reference href =>
    rw [all_isAllowed_operandText_iff]
    by_contra hf
    exact hno (.reference _ _ _ (cut_runs cs) href hcut (Bool.eq_false_iff.mpr hf))
  | kept hkept =>
    refine List.all_eq_true.mpr fun c hc => ?_
    by_contra hbad
    exact hno (.character _ _ c (cut_runs cs) hcut hkept hc (Bool.eq_false_iff.mpr hbad))

/-- **Substitution hides nothing that is rejected and brings in nothing that is.** -/
theorem all_isAllowed_substituteWith_iff :
    (substituteWith value cs).all isAllowed = true ↔ ¬ Rejected value cs := by
  rw [substituteWith, List.all_flatMap, List.all_eq_true]
  constructor
  · intro hall h
    cases h with
    | character parts part c hcut hpart hkept hc hbad =>
      rw [(cut_iff cs parts).mp hcut] at hpart
      have hkeptAll := hall part hpart
      rw [substituteRun, (referenceParts?_eq_none_iff part).mpr hkept] at hkeptAll
      rw [List.all_eq_true.mp hkeptAll c hc] at hbad
      cases hbad
    | reference parts letters digits hcut href hmem hbad =>
      rw [(cut_iff cs parts).mp hcut] at hmem
      have hword := hall _ hmem
      rw [substituteRun, (referenceParts?_eq_some_iff _).mpr ⟨rfl, href⟩, all_isAllowed_operandText_iff, hbad] at hword
      cases hword
  · exact fun hno part hpart => (replaces_substituteRun value part).all_isAllowed hpart hno

theorem evaluate_substituteWith_of_rejected (h : Rejected value cs) : Arith.evaluate (substituteWith value cs) = 0 := by
  have hnot : ¬ (substituteWith value cs).all isAllowed = true := fun hall =>
    all_isAllowed_substituteWith_iff.mp hall h
  rw [Arith.evaluate, if_neg hnot]

end

/-- **What is outside arithmetic is worth nothing.** A formula that is no sum is worth `0` if a character outside
arithmetic belongs to none of its references, or if one of these has no finite value.  A reference to a formula
cell is worth `0` on the same grounds, with the values of its references one level down.  What is written for a
reference holds no other characters than those of a number, or a word that is no number. -/
theorem rejected_is_zero (source : Source) :
    (∀ raw body, raw.toList = '=' :: body → (∀ rest, ¬ OpensSum (trim body) rest) →
      Rejected (resolve source) (trim body) → evaluate source raw = .number 0) ∧
    (∀ letters digits raw, source.content? letters digits = some raw → isFormula raw = true →
      Rejected (operandValue source 0) (raw.drop 1) → resolve source letters digits = 0) ∧
    ∀ levels letters digits,
      (∀ c ∈ operandText (operandValue source levels letters digits), c.isDigit ∨ c ∈ operandSigns) ∨
      "inf".toList <:+: operandText (operandValue source levels letters digits) ∨
      "NaN".toList <:+: operandText (operandValue source levels letters digits) := by
  refine ⟨fun raw body hraw hsum hrejected => ?_, fun letters digits raw hcontent hformula hrejected => ?_,
    fun levels letters digits => chars_operandText _⟩
  · rw [evaluate_of_no_sum source raw body hraw ((afterSum?_eq_none_iff _).mpr hsum), substitute,
      evaluate_substituteWith_of_rejected hrejected]
  · show operandValue source (0 + 1) letters digits = 0
    rw [operandValue_succ hcontent hformula, evaluate_substituteWith_of_rejected hrejected]

/-- an infinite reference in a power, a letter behind a reference, and a cell with a semicolon in its formula -/
theorem rejected_power_letter_and_semicolon :
    evaluate (single "Infinity") "= 2**A1 " = .number 0 ∧ evaluate (single "1") "=A1+A1e" = .number 0 ∧
      resolve (single "=A1;0") ['A'] ['1'] = 0 := by
  have href : IsReference ['A'] ['1'] := ((referenceParts?_eq_some_iff ['A', '1']).mp rfl).2
  have hnot := fun word => (referenceParts?_eq_none_iff word).mp
  refine ⟨(rejected_is_zero (single "Infinity")).1 _ " 2**A1 ".toList (by decide) ?_ ?_,
    (rejected_is_zero (single "1")).1 _ "A1+A1e".toList (by decide) ?_ ?_,
    (rejected_is_zero (single "=A1;0")).2.1 _ _ "=A1;0".toList rfl (by decide) ?_⟩
  · exact (afterSum?_eq_none_iff _).mp (by decide)
  · exact .reference _ ['A'] ['1'] (cut_runs _) href (by decide +kernel) (by decide +kernel)
  · exact (afterSum?_eq_none_iff _).mp (by decide)
  · exact .character _ "A1e".toList 'e' (cut_runs _) (by decide +kernel) (hnot _ (by decide)) (by decide) (by decide)
  · exact .character _ [';'] ';' (cut_runs _) (by decide +kernel) (hnot _ (by decide)) (by decide) (by decide)

end FormulaGrid.Formula
