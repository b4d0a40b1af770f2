import Mathlib.Algebra.Group.Nat.Defs
import Mathlib.Data.List.Induction
import FormulaGrid.Cell.Column

/-!
# Column names as numbers

* `nameValue`            the number that letters stand for in base 26 without a zero;
* `ofLetters?_eq_some_iff`   a name is that of the column before its value, if the value is an index;
* `letters_eq`           the name of a column from its last letter;
* `nameValue_letters`    the value of the name of a column;
* `letters_of_nameValue`   capital letters are the name of the column before their value.
-/

namespace FormulaGrid.Column

open Number (maxIndex)

/-- the value of letters, those in front worth 26 times as much as the next -/
def nameValue : List Char → Nat
  | [] => 0
  | c :: cs => letterValue c * 26 ^ cs.length + nameValue cs

theorem nameValue_nil : nameValue [] = 0 := rfl

theorem nameValue_cons (c : Char) (cs : List Char) :
    nameValue (c :: cs) = letterValue c * 26 ^ cs.length + nameValue cs := rfl

theorem nameValue_append (a b : List Char) :
    nameValue (a ++ b) = nameValue a * 26 ^ b.length + nameValue b := by
  induction a with
  | nil => rw [List.nil_append, nameValue_nil, Nat.zero_mul, Nat.zero_add]
  | cons c cs ih =>
    rw [List.cons_append, nameValue_cons, nameValue_cons, ih, List.length_append, Nat.pow_add, Nat.add_mul,
      Nat.mul_assoc, Nat.add_assoc]

theorem nameValue_concat (cs : List Char) (c : Char) :
    nameValue (cs ++ [c]) = 26 * nameValue cs + letterValue c := by
  rw [nameValue_append, nameValue_cons, nameValue_nil]
  show nameValue cs * 26 ^ 1 + (letterValue c * 26 ^ 0 + 0) = _
  rw [Nat.pow_one, Nat.pow_zero]
  omega

theorem nameValue_pos (cs : List Char) (h : cs ≠ []) : 0 < nameValue cs := by
  obtain ⟨c, ds, rfl⟩ := List.exists_cons_of_ne_nil h
  have hpos : 0 < letterValue c * 26 ^ ds.length :=
    Nat.mul_pos (Nat.succ_pos _) (Nat.pow_pos (by decide))
  exact Nat.lt_of_lt_of_le hpos (Nat.le_add_right _ _)

/-! ## letters -/

/-- the letters are among the first 128 characters -/
theorem of_isAlpha (p : Char → Bool)
    (h : (List.range 128).all fun n => !(Char.ofNat n).isAlpha || p (Char.ofNat n)) (c : Char)
    (hc : c.isAlpha) : p c := by
  have hlt : c.toNat < 128 := by
    delta Char.isAlpha Char.isUpper Char.isLower at hc
    simp only [Bool.or_eq_true, decide_eq_true_eq, UInt32.le_iff_toNat_le] at hc
    have e : c.toNat = c.val.toNat := rfl
    simp at hc
    omega
  have hall := List.all_eq_true.mp h c.toNat (List.mem_range.mpr hlt)
  rw [Char.ofNat_toNat, hc] at hall
  exact hall

theorem letter_of_isAlpha (c : Char) (hc : c.isAlpha) :
    letterValue c ≤ 26 ∧ letter (letterValue c - 1) = c.toUpper := by
  have h := of_isAlpha (fun c => decide (letterValue c ≤ 26 ∧ letter (letterValue c - 1) = c.toUpper))
    (by decide +kernel) c hc
  exact of_decide_eq_true h

theorem isAlpha_of_isUpper (c : Char) (h : c.isUpper) : c.isAlpha := by
  show (c.isUpper || c.isLower) = true
  rw [h, Bool.true_or]

theorem isUpper_letter : ∀ n, n < 26 → (letter n).isUpper := by decide

theorem letterValue_letter : ∀ n, n < 26 → letterValue (letter n) = n + 1 := by decide

/-! ## reading names -/

theorem foldlM_addLetter?_eq_some_iff (cs : List Char) (acc n : Nat) (hacc : acc ≤ maxIndex) :
    cs.foldlM addLetter? acc = some n ↔
      cs.all Char.isAlpha ∧ acc * 26 ^ cs.length + nameValue cs = n ∧ n ≤ maxIndex := by
  induction cs generalizing acc with
  | nil =>
    show some acc = some n ↔ true = true ∧ acc * 26 ^ 0 + 0 = n ∧ n ≤ maxIndex
    rw [Nat.pow_zero, Nat.mul_one, Nat.add_zero, Option.some.injEq]
    constructor
    · rintro rfl
      exact ⟨rfl, rfl, hacc⟩
    · exact fun h => h.2.1
  | cons c cs ih =>
    have hvalue : acc * 26 ^ (c :: cs).length + nameValue (c :: cs) =
        (26 * acc + letterValue c) * 26 ^ cs.length + nameValue cs := by
      rw [nameValue_cons, List.length_cons, Nat.pow_succ', Nat.add_mul, Nat.mul_left_comm acc 26, Nat.mul_assoc,
        Nat.add_assoc]
    rw [List.foldlM_cons, List.all_cons, hvalue, addLetter?]
    by_cases hc : c.isAlpha
    · rw [if_pos hc, hc, Bool.true_and]
      by_cases hle : 26 * acc + letterValue c ≤ maxIndex
      · simp only [if_pos hle]
        exact ih _ hle
      · -- the value only grows with the letters that follow
        simp only [if_neg hle]
        refine ⟨fun h => (nomatch h), fun ⟨_, hn, hmax⟩ => absurd ?_ hle⟩
        have hpow : 0 < 26 ^ cs.length := Nat.pow_pos (by decide)
        have hgrow := Nat.le_mul_of_pos_right (26 * acc + letterValue c) hpow
        omega
    · rw [if_neg hc, Bool.eq_false_iff.mpr hc, Bool.false_and]
      exact ⟨fun h => (nomatch h), fun h => (nomatch h.1)⟩

theorem ofLetters?_eq_some_iff (cs : List Char) (column : Nat) :
    ofLetters? cs = some column ↔ cs.all Char.isAlpha ∧ nameValue cs = column + 1 ∧ column + 1 ≤ maxIndex := by
  have hfold := foldlM_addLetter?_eq_some_iff cs 0 (column + 1) (Nat.zero_le _)
  rw [Nat.zero_mul, Nat.zero_add] at hfold
  rw [← hfold, ofLetters?]
  split
  · next n e => rw [e, Option.some.injEq, Option.some.injEq, Nat.succ.injEq]
  · next hne => exact ⟨fun h => (nomatch h), fun h => absurd h (hne column)⟩

/-! ## writing names -/

theorem lettersOnto_append (a b : List Char) (column : Nat) :
    lettersOnto (a ++ b) column = lettersOnto a column ++ b := by
  induction a, column using lettersOnto.induct with
  | case1 a column h =>
    rw [lettersOnto, if_pos h, lettersOnto, if_pos h, List.cons_append]
  | case2 a column h ih =>
    rw [lettersOnto, if_neg h, lettersOnto.eq_1 a, if_neg h, ← ih, List.cons_append]

/-- the name of a column ends in the letter of its remainder -/
theorem letters_eq (column : Nat) : letters column =
    if column < 26 then [letter column] else letters (column / 26 - 1) ++ [letter (column % 26)] := by
  rw [letters, lettersOnto]
  split
  · rfl
  · exact lettersOnto_append [] _ _

theorem letters_ne_nil (column : Nat) : letters column ≠ [] := by
  rw [letters_eq]
  split
  · exact List.cons_ne_nil _ _
  · exact List.append_ne_nil_of_right_ne_nil _ (List.cons_ne_nil _ _)

theorem isUpper_of_mem_letters (column : Nat) : ∀ c ∈ letters column, c.isUpper := by
  induction column using Nat.strongRecOn with
  | ind column ih =>
    rw [letters_eq]
    split
    · next h =>
      exact List.forall_mem_singleton.mpr (isUpper_letter column h)
    · next h =>
      refine List.forall_mem_append.mpr ⟨ih _ ?_, List.forall_mem_singleton.mpr ?_⟩
      · omega
      · exact isUpper_letter _ (Nat.mod_lt _ (by decide))

theorem isAlpha_of_mem_letters (column : Nat) : ∀ c ∈ letters column, c.isAlpha := fun c hc =>
  isAlpha_of_isUpper c (isUpper_of_mem_letters column c hc)

/-- **The value of the name of a column is the column, counted from one.** -/
theorem nameValue_letters (column : Nat) : nameValue (letters column) = column + 1 := by
  induction column using Nat.strongRecOn with
  | ind column ih =>
    rw [letters_eq]
    split
    · next h =>
      rw [nameValue_cons, nameValue_nil, letterValue_letter column h, List.length_nil, Nat.pow_zero]
      omega
    · next h =>
      rw [nameValue_concat, ih _ (by omega), letterValue_letter _ (Nat.mod_lt _ (by decide))]
      omega

/-- **Letters, as capitals, are the name of the column that they stand for.** -/
theorem letters_of_nameValue (cs : List Char) (hne : cs ≠ []) (halpha : ∀ c ∈ cs, c.isAlpha) :
    letters (nameValue cs - 1) = cs.map Char.toUpper := by
  induction cs using List.reverseRecOn with
  | nil => exact absurd rfl hne
  | append_singleton cs c ih =>
    obtain ⟨hcs, hc⟩ := List.forall_mem_append.mp halpha
    obtain ⟨hle, hletter⟩ := letter_of_isAlpha c (hc c List.mem_cons_self)
    have hpos : 1 ≤ letterValue c := Nat.succ_pos _
    rw [nameValue_concat, letters_eq, List.map_append, List.map_singleton, ← hletter]
    by_cases hnil : cs = []
    · subst hnil
      rw [nameValue_nil, Nat.mul_zero, Nat.zero_add, if_pos (by omega)]
      rfl
    · have hfront := nameValue_pos cs hnil
      have hdiv : (26 * nameValue cs + letterValue c - 1) / 26 - 1 = nameValue cs - 1 := by omega
      have hmod : (26 * nameValue cs + letterValue c - 1) % 26 = letterValue c - 1 := by omega
      rw [if_neg (by omega), hdiv, hmod, ih hnil hcs]

end FormulaGrid.Column
