import FormulaGrid.Cell.Ref
import FormulaGrid.Proofs.Cell.Names
import FormulaGrid.Proofs.Number.Whole
import FormulaGrid.Proofs.Text.Blanks
import FormulaGrid.Proofs.Text.Runs

/-!
# References, read and written

* `RefParts`           letters and digits that make up a text and stand for a column and a row;
* `parse?_eq_ofParts?`, `ofParts?_eq_some_iff`   what is read of the two parts;
* `exists_parts`       every reference that is read has its two parts;
* `RefParts.name_eq`   the reference is written with capital letters and without zeros in front;
* `parse?_name`        a reference is read from its name, if its row and its column have numbers;
* `references_exact`   reading and writing references.
-/

namespace FormulaGrid.CellRef

open Column Number Text

/-- letters and digits that make up a text and stand for a column and a row, counted from one -/
structure RefParts (text letters digits : List Char) : Prop where
  text_eq : text = letters ++ digits
  letters_ne_nil : letters ≠ []
  digits_ne_nil : digits ≠ []
  isAlpha : ∀ c ∈ letters, c.isAlpha
  isDigit : ∀ c ∈ digits, c.isDigit
  row_pos : 1 ≤ digitsValue digits
  row_le : digitsValue digits ≤ maxIndex
  col_le : nameValue letters ≤ maxIndex

/-! ## reading -/

theorem isAlpha_of_isDigit (c : Char) (h : c.isDigit) : c.isAlpha = false := by
  apply Bool.eq_false_iff.mpr
  intro ha
  have hno := of_isAlpha (!Char.isDigit ·) (by decide) c ha
  rw [h] at hno
  cases hno

section
variable {letters digits : List Char}

theorem parse?_eq_ofParts? (text : String) (htext : trim text.toList = letters ++ digits)
    (halpha : ∀ c ∈ letters, c.isAlpha) (hdigit : ∀ c ∈ digits, c.isDigit) :
    parse? text = ofParts? letters digits := by
  have hhead : digits.takeWhile Char.isAlpha = [] ∧ digits.dropWhile Char.isAlpha = digits := by
    cases digits with
    | nil => exact ⟨rfl, rfl⟩
    | cons c cs =>
      have hc := Bool.eq_false_iff.mp (isAlpha_of_isDigit c (hdigit c List.mem_cons_self))
      exact ⟨List.takeWhile_cons_of_neg hc, List.dropWhile_cons_of_neg hc⟩
  have htake : (letters ++ digits).takeWhile Char.isAlpha = letters := by
    rw [List.takeWhile_append_of_pos halpha, hhead.1, List.append_nil]
  have hdrop : (letters ++ digits).dropWhile Char.isAlpha = digits := by
    rw [List.dropWhile_append_of_pos halpha, hhead.2]
  simp only [parse?, htext, htake, hdrop]
  exact if_pos (List.all_eq_true.mpr hdigit)

theorem rowOfDigits?_eq_some_iff (hdigit : ∀ c ∈ digits, c.isDigit) (row : Nat) :
    rowOfDigits? digits = some row ↔ digitsValue digits = row + 1 ∧ row + 1 ≤ maxIndex := by
  have hread := readNat_eq_ok_iff maxIndex digits (List.all_eq_true.mpr hdigit) (row + 1)
  have hne : digitsValue digits = row + 1 → digits ≠ [] := by
    rintro e rfl
    cases e
  have hiff : readNat maxIndex digits = .ok (row + 1) ↔ digitsValue digits = row + 1 ∧ row + 1 ≤ maxIndex :=
    hread.trans ⟨fun h => h.2, fun h => ⟨hne h.1, h⟩⟩
  rw [← hiff, rowOfDigits?]
  split
  · next n e => rw [e, Option.some.injEq, Except.ok.injEq, Nat.succ.injEq]
  · next hno => exact ⟨fun h => (nomatch h), fun h => absurd h (hno row)⟩

theorem ofParts?_eq_some_iff (hdigit : ∀ c ∈ digits, c.isDigit) (cell : CellRef) :
    ofParts? letters digits = some cell ↔
      (letters.all Char.isAlpha ∧ nameValue letters = cell.col + 1 ∧ cell.col + 1 ≤ maxIndex) ∧
        digitsValue digits = cell.row + 1 ∧ cell.row + 1 ≤ maxIndex := by
  obtain ⟨row, col⟩ := cell
  rw [← ofLetters?_eq_some_iff, ← rowOfDigits?_eq_some_iff hdigit, ofParts?]
  cases ofLetters? letters with
  | none => exact ⟨fun h => (nomatch h), fun h => (nomatch h.1)⟩
  | some col' =>
    cases rowOfDigits? digits with
    | none => exact ⟨fun h => (nomatch h), fun h => (nomatch h.2)⟩
    | some row' => rw [Option.some.injEq, Option.some.injEq, Option.some.injEq, mk.injEq, and_comm]

/-- **The two parts of a text decide its reference.** -/
theorem RefParts.ofParts?_eq {text : List Char} (h : RefParts text letters digits) :
    ofParts? letters digits = some ⟨digitsValue digits - 1, nameValue letters - 1⟩ := by
  have hcol : nameValue letters - 1 + 1 = nameValue letters :=
    Nat.sub_add_cancel (nameValue_pos letters h.letters_ne_nil)
  have hrow : digitsValue digits - 1 + 1 = digitsValue digits := Nat.sub_add_cancel h.row_pos
  rw [ofParts?_eq_some_iff h.isDigit]
  exact ⟨⟨List.all_eq_true.mpr h.isAlpha, hcol.symm, Nat.le_trans (Nat.le_of_eq hcol) h.col_le⟩,
    hrow.symm, Nat.le_trans (Nat.le_of_eq hrow) h.row_le⟩

theorem exists_parts (text : String) (cell : CellRef) (h : parse? text = some cell) :
    ∃ letters digits, RefParts (trim text.toList) letters digits ∧ ofParts? letters digits = some cell := by
  refine ⟨(trim text.toList).takeWhile Char.isAlpha, (trim text.toList).dropWhile Char.isAlpha, ?_⟩
  obtain ⟨hdigits, hparts⟩ := Option.ite_none_right_eq_some.mp h
  have hdigit := List.all_eq_true.mp hdigits
  obtain ⟨⟨halpha, hcol, hcol_le⟩, hrow, hrow_le⟩ := (ofParts?_eq_some_iff hdigit cell).mp hparts
  refine ⟨?_, hparts⟩
  exact {
    text_eq := List.takeWhile_append_dropWhile.symm
    letters_ne_nil := fun e => by rw [e] at hcol; cases hcol
    digits_ne_nil := fun e => by rw [e] at hrow; cases hrow
    isAlpha := List.all_eq_true.mp halpha
    isDigit := hdigit
    row_pos := by omega
    row_le := by omega
    col_le := by omega }

/-- rows and columns that are read can be counted from one -/
theorem bounds_of_parse? (text : String) (cell : CellRef) (h : parse? text = some cell) :
    cell.row + 1 ≤ maxIndex ∧ cell.col + 1 ≤ maxIndex := by
  obtain ⟨letters, digits, hparts, hcell⟩ := exists_parts text cell h
  obtain ⟨⟨_, _, hcol⟩, _, hrow⟩ := (ofParts?_eq_some_iff hparts.isDigit cell).mp hcell
  exact ⟨hrow, hcol⟩

/-! ## writing -/

theorem RefParts.name_eq {text : List Char} (h : RefParts text letters digits) :
    name ⟨digitsValue digits - 1, nameValue letters - 1⟩ =
      String.ofList (letters.map Char.toUpper ++ digits.dropWhile (· == '0')) := by
  have hrow : digitsValue digits - 1 + 1 = digitsValue digits := Nat.sub_add_cancel h.row_pos
  rw [name, letters_of_nameValue letters h.letters_ne_nil h.isAlpha, hrow,
    toDigits_digitsValue digits (List.all_eq_true.mpr h.isDigit) h.row_pos]

end

section
variable (cell : CellRef)

theorem toList_name : cell.name.toList = letters cell.col ++ Nat.toDigits 10 (cell.row + 1) :=
  String.toList_ofList

theorem name_ne_nil : cell.name.toList ≠ [] := by
  rw [toList_name]
  exact List.append_ne_nil_of_left_ne_nil (letters_ne_nil _) _

theorem isBlank_of_mem_name (c : Char) (h : c ∈ cell.name.toList) : isBlank c = false := by
  apply isBlank_of_isWord
  apply isWord_of_isAlphanum
  rw [toList_name, List.mem_append] at h
  show (c.isAlpha || c.isDigit) = true
  rcases h with h | h
  · rw [isAlpha_of_mem_letters cell.col c h, Bool.true_or]
  · rw [List.all_eq_true.mp (all_isDigit_toDigits _) c h, Bool.or_true]

/-- **A reference is read from its name**, if its row and its column have numbers. -/
theorem parse?_name (hrow : cell.row < maxIndex) (hcol : cell.col < maxIndex) : parse? cell.name = some cell := by
  have hdigit := List.all_eq_true.mp (all_isDigit_toDigits (cell.row + 1))
  have htext : trim cell.name.toList = letters cell.col ++ Nat.toDigits 10 (cell.row + 1) := by
    rw [trim_eq_self _ (isBlank_of_mem_name cell), toList_name]
  rw [parse?_eq_ofParts? cell.name htext (isAlpha_of_mem_letters cell.col) hdigit, ofParts?_eq_some_iff hdigit]
  exact ⟨⟨List.all_eq_true.mpr (isAlpha_of_mem_letters cell.col), nameValue_letters cell.col, hcol⟩,
    digitsValue_toDigits _, hrow⟩

end

/-- **References are read and written exactly.** A text names a cell if and only if it consists, blanks around
it aside, of letters and of digits that stand for a column and a row; these are then the cell's, counted from
zero, its name has capital letters and no zeros in front, and the two parts give the same cell.  A cell is read
from its name if and only if its row and its column have numbers, as they do in every cell that is read. -/
theorem references_exact :
    (∀ text, (parse? text).isSome ↔ ∃ letters digits, RefParts (trim text.toList) letters digits) ∧
    (∀ text letters digits, RefParts (trim text.toList) letters digits →
      ∃ cell : CellRef, parse? text = some cell ∧ cell = ⟨digitsValue digits - 1, nameValue letters - 1⟩ ∧
        cell.name = String.ofList (letters.map Char.toUpper ++ digits.dropWhile (· == '0')) ∧
        ofParts? letters digits = some cell) ∧
    (∀ cell : CellRef, parse? cell.name = some cell ↔ cell.row < maxIndex ∧ cell.col < maxIndex) ∧
    (∀ text cell, parse? text = some cell → cell.row + 1 ≤ maxIndex ∧ cell.col + 1 ≤ maxIndex) := by
  have hread : ∀ text letters digits, RefParts (trim text.toList) letters digits →
      parse? text = some ⟨digitsValue digits - 1, nameValue letters - 1⟩ := by
    intro text letters digits h
    rw [parse?_eq_ofParts? text h.text_eq h.isAlpha h.isDigit, h.ofParts?_eq]
  refine ⟨fun text => ⟨fun hsome => ?_, fun ⟨letters, digits, h⟩ => ?_⟩, fun text letters digits h => ?_,
    fun cell => ⟨bounds_of_parse? cell.name cell, fun ⟨hrow, hcol⟩ => parse?_name cell hrow hcol⟩, bounds_of_parse?⟩
  · obtain ⟨cell, hcell⟩ := Option.isSome_iff_exists.mp hsome
    obtain ⟨letters, digits, h, _⟩ := exists_parts text cell hcell
    exact ⟨letters, digits, h⟩
  · rw [hread text letters digits h]
    rfl
  · exact ⟨_, hread text letters digits h, rfl, h.name_eq, h.ofParts?_eq⟩

end FormulaGrid.CellRef
