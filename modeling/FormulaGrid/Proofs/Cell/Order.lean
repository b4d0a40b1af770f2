import Mathlib.Data.Char
import Mathlib.Data.List.Shortlex
import FormulaGrid.Proofs.Cell.Names
import FormulaGrid.Proofs.Number.Word

/-!
# The order of column names

* `leastValue_le`, `nameValue_le`   the values of the names of one length lie between that of `A..A` and that of
                    `Z..Z`, and the next longer name follows directly;
* `nameValue_lt`    names that are ordered by length and then alphabetically are ordered by their values;
* `lt_iff_shortlex` and so are columns by their names;
* `ofLetters?_eq_none_iff`   letters name no column if their value is too large;
* `columnInWords?`  the column of a name, computed in words;
* `letters_order_isomorphism`   columns and their names.
-/

namespace FormulaGrid.Column

open Number (maxIndex checkedMul? checkedMul?_eq_some_iff checkedAdd? checkedAdd?_eq_some_iff)

/-! ## names of one length -/

/-- the value of the first name of a length, `A..A` -/
def leastValue (length : Nat) : Nat := nameValue (List.replicate length 'A')

theorem leastValue_succ (n : Nat) : leastValue (n + 1) = 26 ^ n + leastValue n := by
  show letterValue 'A' * 26 ^ (List.replicate n 'A').length + leastValue n = _
  rw [List.length_replicate, show letterValue 'A' = 1 from rfl, Nat.one_mul]

/-- behind `Z..Z` comes the first name that is longer by one letter -/
theorem leastValue_mul (n : Nat) : 25 * leastValue n + 1 = 26 ^ n := by
  induction n with
  | zero => rfl
  | succ n ih =>
    rw [leastValue_succ, Nat.pow_succ]
    omega

theorem leastValue_mono {m n : Nat} (h : m ≤ n) : leastValue m ≤ leastValue n := by
  induction h with
  | refl => exact Nat.le_refl _
  | step _ ih =>
    rw [leastValue_succ]
    exact Nat.le_add_left_of_le ih

section
variable {a b : List Char}

theorem leastValue_le (a : List Char) : leastValue a.length ≤ nameValue a := by
  induction a with
  | nil => exact Nat.le_refl _
  | cons c cs ih =>
    have hletter : 26 ^ cs.length ≤ letterValue c * 26 ^ cs.length :=
      Nat.le_mul_of_pos_left _ (Nat.succ_pos _)
    rw [List.length_cons, leastValue_succ, nameValue_cons]
    omega

theorem nameValue_le (ha : ∀ c ∈ a, c.isAlpha) : nameValue a ≤ 26 * leastValue a.length := by
  induction a with
  | nil => exact Nat.le_refl _
  | cons c cs ih =>
    have hletter : letterValue c * 26 ^ cs.length ≤ 26 * 26 ^ cs.length :=
      Nat.mul_le_mul_right _ (letter_of_isAlpha c (ha c List.mem_cons_self)).1
    have hrest := ih fun d hd => ha d (List.mem_cons_of_mem c hd)
    rw [List.length_cons, leastValue_succ, nameValue_cons]
    omega

/-- a shorter name has the smaller value -/
theorem nameValue_lt_of_length_lt (ha : ∀ c ∈ a, c.isAlpha) (h : a.length < b.length) :
    nameValue a < nameValue b := by
  have hnext := leastValue_succ a.length
  have hlast := leastValue_mul a.length
  have hmono := leastValue_mono (Nat.succ_le_of_lt h)
  have hle := nameValue_le ha
  have hge := leastValue_le b
  rw [Nat.succ_eq_add_one] at hmono
  omega

/-! ## the order of names -/

theorem exists_letter (c : Char) (h : c.isUpper) : ∃ n < 26, letter n = c := by
  have hall := of_isAlpha (fun c => !c.isUpper || (List.range 26).any (letter · == c)) (by decide +kernel) c
    (isAlpha_of_isUpper c h)
  rw [h, Bool.not_true, Bool.false_or, List.any_eq_true] at hall
  obtain ⟨n, hn, hc⟩ := hall
  exact ⟨n, List.mem_range.mp hn, eq_of_beq hc⟩

theorem letterValue_lt {c d : Char} (hc : c.isUpper) (hd : d.isUpper) (h : c < d) :
    letterValue c < letterValue d := by
  have hplace : ∀ n, n < 26 → (letter n).toNat = 'A'.toNat + n := by decide
  obtain ⟨m, hm, rfl⟩ := exists_letter c hc
  obtain ⟨n, hn, rfl⟩ := exists_letter d hd
  have hlt : (letter m).toNat < (letter n).toNat := h
  rw [hplace m hm, hplace n hn] at hlt
  rw [letterValue_letter m hm, letterValue_letter n hn]
  omega

/-- **Names that stand before others have the smaller values**: by induction on the letters that both begin with, as
the first letter that differs outweighs all that follow. -/
theorem nameValue_lt (ha : ∀ c ∈ a, c.isUpper) (hb : ∀ c ∈ b, c.isUpper)
    (h : List.Shortlex (· < ·) a b) : nameValue a < nameValue b := by
  have alpha : ∀ s : List Char, (∀ c ∈ s, c.isUpper) → ∀ c ∈ s, c.isAlpha := fun s hs c hc =>
    isAlpha_of_isUpper c (hs c hc)
  obtain hlt | ⟨hlen, hlex⟩ := List.shortlex_def.mp h
  · exact nameValue_lt_of_length_lt (alpha a ha) hlt
  · clear h
    induction hlex with
    | nil => cases hlen
    | @cons c as bs _ ih =>
      have htail := ih (fun d hd => ha d (List.mem_cons_of_mem c hd)) (fun d hd => hb d (List.mem_cons_of_mem c hd))
        (Nat.succ.inj hlen)
      rw [nameValue_cons, nameValue_cons, Nat.succ.inj hlen]
      omega
    | @rel c as d bs hcd =>
      have hletter := letterValue_lt (ha c List.mem_cons_self) (hb d List.mem_cons_self) hcd
      have hmul : (letterValue c + 1) * 26 ^ bs.length ≤ letterValue d * 26 ^ bs.length :=
        Nat.mul_le_mul_right _ hletter
      have hhigh := nameValue_le (alpha as fun e he => ha e (List.mem_cons_of_mem c he))
      have hlow := leastValue_le bs
      have hpow := leastValue_mul bs.length
      rw [Nat.succ.inj hlen] at hhigh
      rw [nameValue_cons, nameValue_cons, Nat.succ.inj hlen]
      rw [Nat.add_mul, Nat.one_mul] at hmul
      omega

end

/-- **Columns are ordered as their names are.** -/
theorem lt_iff_shortlex (a b : Nat) : a < b ↔ List.Shortlex (· < ·) (letters a) (letters b) := by
  have hlt : ∀ m n, List.Shortlex (· < ·) (letters m) (letters n) → m < n := by
    intro m n h
    have hvalue := nameValue_lt (isUpper_of_mem_letters m) (isUpper_of_mem_letters n) h
    rw [nameValue_letters, nameValue_letters] at hvalue
    exact Nat.lt_of_succ_lt_succ hvalue
  refine ⟨fun hab => ?_, hlt a b⟩
  by_contra hno
  -- two names that are not ordered either way are the same, and so are their columns
  have heq : letters a = letters b :=
    Std.Trichotomous.trichotomous (r := List.Shortlex (· < ·)) _ _ hno fun h => absurd (hlt b a h) (Nat.lt_asymm hab)
  have hvalue := nameValue_letters a
  rw [heq, nameValue_letters] at hvalue
  omega

/-! ## reading -/

theorem ofLetters?_letters (column : Nat) (h : column < maxIndex) : ofLetters? (letters column) = some column := by
  rw [ofLetters?_eq_some_iff]
  exact ⟨List.all_eq_true.mpr (isAlpha_of_mem_letters column), nameValue_letters column, h⟩

section
variable (cs : List Char) (hne : cs ≠ []) (halpha : ∀ c ∈ cs, c.isAlpha)
include hne halpha

theorem ofLetters?_of_le (hle : nameValue cs ≤ maxIndex) : ofLetters? cs = some (nameValue cs - 1) := by
  have hsucc : nameValue cs - 1 + 1 = nameValue cs := Nat.sub_add_cancel (nameValue_pos cs hne)
  rw [ofLetters?_eq_some_iff, hsucc]
  exact ⟨List.all_eq_true.mpr halpha, rfl, hle⟩

/-- wherever the limit is passed, the letters that follow do not bring the value back -/
theorem ofLetters?_eq_none_iff : ofLetters? cs = none ↔ maxIndex < nameValue cs := by
  constructor
  · intro hnone
    by_contra hle
    rw [ofLetters?_of_le cs hne halpha (Nat.le_of_not_lt hle)] at hnone
    cases hnone
  · intro hlt
    by_contra hsome
    obtain ⟨column, hcolumn⟩ := Option.ne_none_iff_exists'.mp hsome
    obtain ⟨_, hvalue, hle⟩ := (ofLetters?_eq_some_iff cs column).mp hcolumn
    omega

end

/-- a name in capital letters is written again -/
theorem letters_of_isUpper (cs : List Char) (hne : cs ≠ []) (hupper : ∀ c ∈ cs, c.isUpper) :
    letters (nameValue cs - 1) = cs := by
  have hcapital : ∀ n, n < 26 → (letter n).toUpper = letter n := by decide
  rw [letters_of_nameValue cs hne fun c hc => isAlpha_of_isUpper c (hupper c hc)]
  refine (List.map_congr_left fun c hc => ?_).trans (List.map_id cs)
  obtain ⟨n, hn, rfl⟩ := exists_letter c (hupper c hc)
  exact hcapital n hn

/-! ## words -/

/-- continue the value of a name by one letter in words, unless the product or the sum overflows -/
def addLetterInWords? (acc : UInt64) (c : Char) : Option UInt64 :=
  if c.isAlpha then (checkedMul? acc 26).bind (checkedAdd? · (UInt64.ofNat (letterValue c))) else none

/-- the column of a name, computed in words -/
def columnInWords? (cs : List Char) : Option UInt64 :=
  (cs.foldlM addLetterInWords? 0).bind fun n => if n = 0 then none else some (n - 1)

theorem addLetterInWords?_eq_some_iff (acc n : UInt64) (c : Char) :
    addLetterInWords? acc c = some n ↔ addLetter? acc.toNat c = some n.toNat := by
  rw [addLetterInWords?, addLetter?]
  by_cases hc : c.isAlpha
  · have hmax : maxIndex = 2 ^ 64 - 1 := rfl
    have hle := (letter_of_isAlpha c hc).1
    have hletter : (UInt64.ofNat (letterValue c)).toNat = letterValue c :=
      UInt64.toNat_ofNat_of_lt (Nat.lt_of_le_of_lt hle (by decide))
    have hword : n.toNat < 2 ^ 64 := n.toNat_lt
    have h26 : (26 : UInt64).toNat = 26 := rfl
    rw [if_pos hc, if_pos hc, Option.bind_eq_some_iff]
    constructor
    · rintro ⟨product, hproduct, hsum⟩
      rw [checkedMul?_eq_some_iff, h26] at hproduct
      rw [checkedAdd?_eq_some_iff, hletter, hproduct] at hsum
      rw [if_pos (by omega), Option.some.injEq]
      omega
    · intro hsum
      obtain ⟨hfits, hvalue⟩ := Option.ite_none_right_eq_some.mp hsum
      rw [Option.some.injEq] at hvalue
      have hlt : acc.toNat * 26 < 2 ^ 64 := by omega
      have hproduct : (UInt64.ofNat (acc.toNat * 26)).toNat = acc.toNat * 26 := UInt64.toNat_ofNat_of_lt hlt
      refine ⟨UInt64.ofNat (acc.toNat * 26), (checkedMul?_eq_some_iff _ _ _).mpr hproduct, ?_⟩
      rw [checkedAdd?_eq_some_iff, hproduct, hletter]
      omega
  · rw [if_neg hc, if_neg hc]
    exact ⟨fun h => absurd h.symm (Option.some_ne_none _), fun h => absurd h.symm (Option.some_ne_none _)⟩

theorem map_addLetterInWords? (acc : UInt64) (c : Char) :
    (addLetterInWords? acc c).map UInt64.toNat = addLetter? acc.toNat c := by
  apply Option.ext
  intro n
  rw [Option.map_eq_some_iff]
  constructor
  · rintro ⟨word, hword, rfl⟩
    exact (addLetterInWords?_eq_some_iff acc word c).mp hword
  · intro hn
    have hle : n ≤ maxIndex := by
      obtain ⟨_, hn⟩ := Option.ite_none_right_eq_some.mp hn
      obtain ⟨hle, hn⟩ := Option.ite_none_right_eq_some.mp hn
      exact Option.some.inj hn ▸ hle
    have hword : (UInt64.ofNat n).toNat = n := UInt64.toNat_ofNat_of_lt (Nat.lt_of_le_of_lt hle (by decide))
    refine ⟨UInt64.ofNat n, (addLetterInWords?_eq_some_iff acc _ c).mpr ?_, hword⟩
    rw [hword, hn]

theorem map_foldlM_addLetterInWords? (cs : List Char) (acc : UInt64) :
    (cs.foldlM addLetterInWords? acc).map UInt64.toNat = cs.foldlM addLetter? acc.toNat := by
  induction cs generalizing acc with
  | nil => rfl
  | cons c cs ih =>
    rw [List.foldlM_cons, List.foldlM_cons, ← map_addLetterInWords?]
    cases addLetterInWords? acc c with
    | none => rfl
    | some n => exact ih n

/-- **No letter is read beyond the limit in words, and none before it is refused.** -/
theorem map_columnInWords? (cs : List Char) : (columnInWords? cs).map UInt64.toNat = ofLetters? cs := by
  rw [columnInWords?, ofLetters?, ← UInt64.toNat_zero, ← map_foldlM_addLetterInWords?]
  cases cs.foldlM addLetterInWords? 0 with
  | none => rfl
  | some n =>
    show (if n = 0 then none else some (n - 1)).map UInt64.toNat = _
    by_cases hn : n = 0
    · subst hn
      rfl
    · have hpos : 1 ≤ n.toNat := Nat.pos_of_ne_zero fun h => hn (UInt64.toNat_inj.mp h)
      have hsub : (n - 1).toNat = n.toNat - 1 := UInt64.toNat_sub_of_le n 1 (UInt64.le_iff_toNat_le.mpr hpos)
      obtain ⟨k, hk⟩ := Nat.exists_eq_succ_of_ne_zero (Nat.ne_of_gt hpos)
      rw [if_neg hn, Option.map_some, Option.map_some, hsub, hk]
      rfl

/-! ## columns and names -/

/-- **Columns and names are ordered alike, and each is had back from the other.** A column below the largest index is
read from its name. The smaller of two columns has the shorter name, or the name that comes first in the alphabet.
Capital letters with a value up to the largest index are the name of the column that is read from them, and letters
name no column exactly if their value is larger, wherever the limit is passed. In words, where each product and each sum
may overflow, the same columns are read. -/
theorem letters_order_isomorphism :
    (∀ column < maxIndex, ofLetters? (letters column) = some column) ∧
    (∀ a b, a < b ↔ (letters a).length < (letters b).length ∨
      (letters a).length = (letters b).length ∧ List.Lex (· < ·) (letters a) (letters b)) ∧
    (∀ cs, cs ≠ [] → (∀ c ∈ cs, c.isUpper) → nameValue cs ≤ maxIndex → (ofLetters? cs).map letters = some cs) ∧
    (∀ cs, cs ≠ [] → (∀ c ∈ cs, c.isAlpha) → (ofLetters? cs = none ↔ maxIndex < nameValue cs)) ∧
    ∀ cs, (columnInWords? cs).map UInt64.toNat = ofLetters? cs := by
  refine ⟨ofLetters?_letters, fun a b => ?_, fun cs hne hupper hle => ?_, ofLetters?_eq_none_iff, map_columnInWords?⟩
  · rw [lt_iff_shortlex, List.shortlex_def]
  · have halpha : ∀ c ∈ cs, c.isAlpha := fun c hc => isAlpha_of_isUpper c (hupper c hc)
    rw [ofLetters?_of_le cs hne halpha hle, Option.map_some, letters_of_isUpper cs hne hupper]

/-- the last name of a column that is read, and the first that is not; a letter more does not help -/
theorem names_at_the_limit :
    ofLetters? (letters (2 ^ 64 - 2)) = some (2 ^ 64 - 2) ∧
      (ofLetters? "GKGWBYLWRXTLPO".toList).map letters = some "GKGWBYLWRXTLPO".toList ∧
      ofLetters? "GKGWBYLWRXTLPP".toList = none ∧ ofLetters? "GKGWBYLWRXTLPPA".toList = none := by
  obtain ⟨hread, _, hname, hnone, _⟩ := letters_order_isomorphism
  refine ⟨hread _ (by decide), hname _ (by decide) (List.all_eq_true.mp rfl) (by decide), ?_, ?_⟩
  · exact (hnone _ (by decide) (List.all_eq_true.mp rfl)).mpr (by decide)
  · exact (hnone _ (by decide) (List.all_eq_true.mp rfl)).mpr (by decide)

end FormulaGrid.Column
