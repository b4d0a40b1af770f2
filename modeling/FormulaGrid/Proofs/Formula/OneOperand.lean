import FormulaGrid.Proofs.Arith.Meaning
import FormulaGrid.Proofs.Formula.Operand
import FormulaGrid.Proofs.Formula.References
import FormulaGrid.Proofs.Formula.Sum

/-!
# A reference as one operand

* `evaluate_of_derives`        a formula without blanks and without a sum has the value that is
                               derived for it after substitution;
* `Operator`, `operators`      the operators with a part on their left and a unary part on their right;
* `OneOperand`                 what is written for a reference is a factor with its value, and keeps
                               its sign on either side of an operator;
* `oneOperand_iff`             this is so unless the value is the zero below zero, which is no factor
                               and loses its sign to a power.
-/

namespace FormulaGrid.Formula

open Arith Number Text

/-! ## formulas that are no sums -/

/-- the letters that the name of a sum may have -/
def sumLetters : List Char := ['s', 'S', 'ſ'] ++ ['u', 'U'] ++ ['m', 'M']

theorem afterSum?_inv (cs rest : List Char) (h : afterSum? cs = some rest) : ∃ s u m tail,
    cs = s :: u :: m :: tail ∧ (∀ c ∈ [s, u, m], c ∈ sumLetters) ∧ trimStart tail = '(' :: rest := by
  obtain ⟨s, u, m, blanks, _, hs, hu, hm, hblanks⟩ := (afterSum?_eq_some_iff cs rest).mp h
  have hs : s ∈ sumLetters := List.mem_append_left _ (List.mem_append_left _ hs)
  have hu : u ∈ sumLetters := List.mem_append_left _ (List.mem_append_right _ hu)
  have hm : m ∈ sumLetters := List.mem_append_right _ hm
  refine ⟨s, u, m, _, rfl, ?_, (trimStart_eq_cons_iff _ rest).mpr ⟨blanks, hblanks, rfl⟩⟩
  exact List.forall_mem_cons.mpr ⟨hs, List.forall_mem_cons.mpr ⟨hu, List.forall_mem_singleton.mpr hm⟩⟩

theorem afterSum?_of_isAllowed (c : Char) (cs : List Char) (h : isAllowed c) :
    afterSum? (c :: cs) = none := by
  cases hs : afterSum? (c :: cs) with
  | none => rfl
  | some rest =>
    obtain ⟨s, u, m, tail, e, hmem, _⟩ := afterSum?_inv _ rest hs
    obtain ⟨rfl, _⟩ := List.cons.inj e
    have hletters : sumLetters.all (!isAllowed ·) := by decide
    have hnot := List.all_eq_true.mp hletters c (hmem c List.mem_cons_self)
    rw [h] at hnot
    cases hnot

/-- what is left without the characters at the start begins before the first other character or there -/
theorem mem_of_dropWhile (p : Char → Bool) (s : List Char) (t d : Char) (ts ds : List Char)
    (ht : p t = false) (h : (s ++ t :: ts).dropWhile p = d :: ds) : d ∈ s ++ [t] := by
  induction s with
  | nil =>
    rw [List.nil_append, List.dropWhile_cons_of_neg (by simp [ht])] at h
    rw [(List.cons.inj h).1]
    exact List.mem_cons_self
  | cons c s ih =>
    by_cases hc : p c
    · rw [List.cons_append, List.dropWhile_cons_of_pos hc] at h
      exact List.mem_cons_of_mem c (ih h)
    · rw [List.cons_append, List.dropWhile_cons_of_neg hc] at h
      rw [(List.cons.inj h).1]
      exact List.mem_cons_self

/-- no sum begins with a reference: digits follow its letters, and no digit belongs to a sum -/
theorem afterSum?_of_reference (word letters digits cs : List Char)
    (h : referenceParts? word = some (letters, digits)) : afterSum? (word ++ cs) = none := by
  obtain ⟨_, hne, hl, hd⟩ := referenceParts?_inv word letters digits h
  obtain ⟨d, ds, rfl⟩ := List.exists_cons_of_ne_nil hne
  have hdigit := hd d List.mem_cons_self
  have hdrop : (word ++ cs).dropWhile Char.isUpper = d :: (ds ++ cs) := by
    have hu := isUpper_of_isDigit d hdigit
    rw [← referenceParts?_append word _ _ h, List.append_assoc, List.dropWhile_append_of_pos hl,
      List.cons_append, List.dropWhile_cons_of_neg (by simp [hu])]
  cases hsum : afterSum? (word ++ cs) with
  | none => rfl
  | some rest =>
    obtain ⟨s, u, m, tail, e, hmem, ht⟩ := afterSum?_inv _ rest hsum
    have hletters : sumLetters.all (!Char.isDigit ·) := by decide
    have htail : ∃ t ts, tail = t :: ts ∧ t.isUpper = false ∧ t.isDigit = false := by
      cases tail with
      | nil => cases ht
      | cons t ts =>
        refine ⟨t, ts, rfl, ?_⟩
        rw [trimStart_cons] at ht
        split at ht
        · next hb =>
          have hw := isWord_of_isBlank t hb
          refine ⟨isUpper_of_not_isWord t hw, Bool.eq_false_iff.mpr fun hd => ?_⟩
          rw [isWord_of_isDigit t hd] at hw
          cases hw
        · rw [(List.cons.inj ht).1]
          decide
    obtain ⟨t, ts, rfl, hupper, hnot⟩ := htail
    rw [e] at hdrop
    rcases List.mem_append.mp (mem_of_dropWhile Char.isUpper [s, u, m] t d ts _ hupper hdrop) with hd | hd
    · have hn := List.all_eq_true.mp hletters d (hmem d hd)
      rw [hdigit] at hn
      cases hn
    · rw [List.mem_singleton.mp hd, hnot] at hdigit
      cases hdigit

/-! ## values -/

/-- the raw text of a formula -/
def formula (cs : List Char) : String := String.ofList ('=' :: cs)

theorem evaluate_of_derives (source : Source) (cs : List Char) (v : Float)
    (hb : ∀ c ∈ cs, isBlank c = false) (hs : afterSum? cs = none)
    (h : Derives numeral .expression maxNesting (substitute source cs) v) :
    evaluate source (formula cs) = .number v := by
  have htrim := trim_eq_self cs hb
  rw [evaluate_of_no_sum source (formula cs) cs String.toList_ofList (htrim.symm ▸ hs), htrim, h.evaluate]

/-- an operator that joins a part on its left with a unary part -/
structure Operator where
  sign : Char
  left : Part
  apply : Float → Float → Float

def operators : List Operator :=
  [⟨'+', .expression, (· + ·)⟩, ⟨'-', .expression, (· - ·)⟩, ⟨'*', .term, (· * ·)⟩,
   ⟨'/', .term, (· / ·)⟩]

theorem derives_operator (op : Operator) (hop : op ∈ operators) (n : Nat) (s t : List Char)
    (v w : Float) (hs : Derives numeral op.left n s v) (ht : Derives numeral .unary n t w) :
    Derives numeral .expression n (s ++ op.sign :: t) (op.apply v w) := by
  simp only [operators, List.mem_cons, List.not_mem_nil, or_false] at hop
  rcases hop with rfl | rfl | rfl | rfl
  · exact .add hs (.unary ht)
  · exact .subtract hs (.unary ht)
  · exact .term (.multiply hs ht)
  · exact .term (.divide hs ht)

/-! ## references -/

section
variable (source : Source) (word letters digits : List Char)
variable (hword : referenceParts? word = some (letters, digits))
include hword

theorem isBlank_of_reference (c : Char) (hc : c ∈ word) : isBlank c = false :=
  isBlank_of_isWord c ((isWord_of_reference word letters digits hword).2 c hc)

theorem substitute_reference_cons (c : Char) (cs : List Char) (hc : isWord c = false)
    (hcs : cs.all isAllowed) : substitute source (word ++ c :: cs) =
      operandText (resolve source letters digits) ++ c :: cs := by
  have hkeep : substituteWith (resolve source) cs = cs :=
    substituteWith_eq_self _ cs fun d hd => isUpper_of_isAllowed d (List.all_eq_true.mp hcs d hd)
  rw [substitute, substituteWith_append_cons _ _ _ _ hc, hkeep,
    substituteWith_reference _ word letters digits hword]

theorem substitute_append_reference (s : List Char) (c : Char) (hc : isWord c = false)
    (hs : s.all isAllowed) : substitute source (s ++ c :: word) =
      s ++ c :: operandText (resolve source letters digits) := by
  have hkeep : substituteWith (resolve source) s = s :=
    substituteWith_eq_self _ s fun d hd => isUpper_of_isAllowed d (List.all_eq_true.mp hs d hd)
  rw [substitute, substituteWith_append_cons _ _ _ _ hc, hkeep,
    substituteWith_reference _ word letters digits hword]

theorem evaluate_reference_cons (c : Char) (cs : List Char) (v : Float) (hc : isWord c = false)
    (hall : (c :: cs).all isAllowed) (h : Derives numeral .expression maxNesting
      (operandText (resolve source letters digits) ++ c :: cs) v) :
    evaluate source (formula (word ++ c :: cs)) = .number v := by
  apply evaluate_of_derives
  · intro d hd
    rcases List.mem_append.mp hd with hd | hd
    · exact isBlank_of_reference word letters digits hword d hd
    · exact isBlank_of_isAllowed d (List.all_eq_true.mp hall d hd)
  · exact afterSum?_of_reference word letters digits _ hword
  · rw [List.all_cons, Bool.and_eq_true] at hall
    rwa [substitute_reference_cons source word letters digits hword c cs hc hall.2]

theorem evaluate_append_reference (s : List Char) (c : Char) (v : Float) (hc : isWord c = false)
    (hall : (s ++ [c]).all isAllowed) (h : Derives numeral .expression maxNesting
      (s ++ c :: operandText (resolve source letters digits)) v) :
    evaluate source (formula (s ++ c :: word)) = .number v := by
  have hsplit : s ++ c :: word = (s ++ [c]) ++ word := by rw [List.append_assoc, List.singleton_append]
  apply evaluate_of_derives
  · intro d hd
    rw [hsplit] at hd
    rcases List.mem_append.mp hd with hd | hd
    · exact isBlank_of_isAllowed d (List.all_eq_true.mp hall d hd)
    · exact isBlank_of_reference word letters digits hword d hd
  · cases s with
    | nil => exact afterSum?_of_isAllowed c _ (List.all_eq_true.mp hall c (by simp))
    | cons d s => exact afterSum?_of_isAllowed d _ (List.all_eq_true.mp hall d (by simp))
  · rw [List.all_append, Bool.and_eq_true] at hall
    rwa [substitute_append_reference source word letters digits hword s c hc hall.1]

end

/-! ## one operand -/

/-- a reference with the value `x` counts as one factor, and on either side of an operator it counts
with its sign -/
structure OneOperand (source : Source) (word : List Char) (x : Float) : Prop where
  factor : Derives numeral .factor maxNesting (substitute source word) x
  base : ∀ u w, Derives numeral .unary (maxNesting - 1) u w →
    evaluate source (formula (word ++ '*' :: '*' :: u)) = .number (x.pow w)
  exponent : ∀ s v, Derives numeral .factor (maxNesting - 1) s v →
    evaluate source (formula (s ++ '*' :: '*' :: word)) = .number (v.pow x)
  right : ∀ op ∈ operators, ∀ s v, Derives numeral op.left maxNesting s v →
    evaluate source (formula (s ++ op.sign :: word)) = .number (op.apply v x)
  minus : evaluate source (formula ('-' :: word)) = .number (-x)
  plus : evaluate source (formula ('+' :: word)) = .number x

section
variable (source : Source) (word letters digits : List Char) (x : Float)
variable (hword : referenceParts? word = some (letters, digits))
variable (hx : resolve source letters digits = x)
include hword hx

theorem substitute_reference : substitute source word = operandText x := by
  rw [substitute, substituteWith_reference _ word letters digits hword, hx]

/-- the sign of the zero below zero stays outside the power -/
theorem evaluate_neg_zero_power (hz : x = -0) (u : List Char) (w : Float)
    (hu : Derives numeral .unary (maxNesting - 2) u w) :
    evaluate source (formula (word ++ '*' :: '*' :: u)) = .number (-Float.pow 0 w) := by
  apply evaluate_reference_cons source word letters digits hword '*' _ _ (by decide)
  · rw [List.all_cons, List.all_cons, hu.all_isAllowed]
    decide
  · rw [hx, hz, operandText_neg_zero]
    exact .term (.unary (.minus (.power (.raise (derives_zero 254) hu))))

variable (hf : x.isFinite = true)
include hf

/-- a reference keeps its sign to the right of an operator, whatever its value -/
theorem evaluate_operator_reference (op : Operator) (hop : op ∈ operators) (s : List Char) (v : Float)
    (hs : Derives numeral op.left maxNesting s v) :
    evaluate source (formula (s ++ op.sign :: word)) = .number (op.apply v x) := by
  have hsigns : ∀ op ∈ operators, isWord op.sign = false ∧ isAllowed op.sign := by decide
  have hsign := hsigns op hop
  apply evaluate_append_reference source word letters digits hword s op.sign _ hsign.1
  · rw [List.all_append, hs.all_isAllowed, List.all_cons, hsign.2]
    rfl
  · rw [hx]
    exact derives_operator op hop maxNesting s _ v x hs (derives_unary_operandText x hf 253)

theorem evaluate_power_reference (s : List Char) (v : Float)
    (hs : Derives numeral .factor (maxNesting - 1) s v) :
    evaluate source (formula (s ++ '*' :: '*' :: word)) = .number (v.pow x) := by
  have hsplit : ∀ t : List Char, s ++ '*' :: '*' :: t = (s ++ ['*']) ++ '*' :: t := by simp
  rw [hsplit]
  apply evaluate_append_reference source word letters digits hword (s ++ ['*']) '*' _ (by decide)
  · rw [List.all_append, List.all_append, hs.all_isAllowed]
    decide
  · rw [hx, ← hsplit]
    exact .term (.unary (.power (.raise hs (derives_unary_operandText x hf 252))))

theorem evaluate_signs_reference : evaluate source (formula ('-' :: word)) = .number (-x) ∧
    evaluate source (formula ('+' :: word)) = .number x := by
  have hd := derives_unary_operandText x hf 252
  constructor
  · apply evaluate_append_reference source word letters digits hword [] '-' _ (by decide) (by decide)
    rw [hx]
    exact .term (.unary (.minus hd))
  · apply evaluate_append_reference source word letters digits hword [] '+' _ (by decide) (by decide)
    rw [hx]
    exact .term (.unary (.plus hd))

theorem evaluate_reference_power (hz : x ≠ -0) (u : List Char) (w : Float)
    (hu : Derives numeral .unary (maxNesting - 1) u w) :
    evaluate source (formula (word ++ '*' :: '*' :: u)) = .number (x.pow w) := by
  apply evaluate_reference_cons source word letters digits hword '*' _ _ (by decide)
  · rw [List.all_cons, List.all_cons, hu.all_isAllowed]
    decide
  · rw [hx]
    exact .term (.unary (.power (.raise ((derives_operandText_iff x hf 253).mpr hz) hu)))

end

/-- **A reference is one operand unless its value is the zero below zero**, which is written with a
sign and without parentheses. -/
theorem oneOperand_iff (source : Source) (word letters digits : List Char) (x : Float)
    (hword : referenceParts? word = some (letters, digits))
    (hx : resolve source letters digits = x) (hf : x.isFinite = true) :
    OneOperand source word x ↔ x ≠ -0 := by
  have hfactor : Derives numeral .factor maxNesting (substitute source word) x ↔ x ≠ -0 := by
    rw [substitute_reference source word letters digits x hword hx]
    exact derives_operandText_iff x hf 254
  have hsigns := evaluate_signs_reference source word letters digits x hword hx hf
  constructor
  · intro h
    exact hfactor.mp h.factor
  · intro hz
    exact {
      factor := hfactor.mpr hz
      base := evaluate_reference_power source word letters digits x hword hx hf hz
      exponent := evaluate_power_reference source word letters digits x hword hx hf
      right := evaluate_operator_reference source word letters digits x hword hx hf
      minus := hsigns.1
      plus := hsigns.2 }

theorem oneOperand_negative_two : referenceParts? ['A', '1'] = some (['A'], ['1']) ∧
    resolve (single "-2") ['A'] ['1'] = -2 ∧ (-2 : Float).isFinite = true ∧
    OneOperand (single "-2") ['A', '1'] (-2) := by
  have hx : resolve (single "-2") ['A'] ['1'] = -2 := toBits_inj _ _ (by decide +kernel)
  have hf : (-2 : Float).isFinite = true := by decide +kernel
  have hm : magnitude (-2) ≠ 0 := by decide +kernel
  have hz : (-2 : Float) ≠ -0 := fun h => hm ((eq_neg_zero_iff (-2)).mp h).2
  exact ⟨rfl, hx, hf, (oneOperand_iff (single "-2") _ _ _ (-2) rfl hx hf).mpr hz⟩

/-- the cell `-0` is written as `-0`, and the sign is applied to the power -/
theorem not_oneOperand_neg_zero : resolve (single "-0") ['A'] ['1'] = -0 ∧
    (-0 : Float).isFinite = true ∧ ¬ OneOperand (single "-0") ['A', '1'] (-0) ∧
    evaluate (single "-0") (formula ['A', '1', '*', '*', '0']) = .number (-Float.pow 0 0) := by
  have hword : referenceParts? ['A', '1'] = some (['A'], ['1']) := rfl
  have hx : resolve (single "-0") ['A'] ['1'] = -0 := toBits_inj _ _ (by decide +kernel)
  have hzero : Derives numeral .unary (maxNesting - 2) ['0'] 0 :=
    .power (.factor (derives_zero 253))
  refine ⟨hx, isFinite_neg_zero, fun h => ?_,
    evaluate_neg_zero_power (single "-0") _ _ _ (-0) hword hx rfl ['0'] 0 hzero⟩
  have hd := h.factor
  rw [substitute_reference (single "-0") _ _ _ (-0) hword hx] at hd
  exact (derives_operandText_iff (-0) isFinite_neg_zero 254).mp hd rfl

end FormulaGrid.Formula
