import FormulaGrid.Sheet.Basic

/-!
# Reading and writing cells

* `index_div`, `index_mod`, `index_inj`   the row and the column of a place, and so different cells stand at
                    different places;
* `exists_get?`, `get?_blank`   every cell of a grid has a text, which is empty in a blank one;
* `blank?_eq_ok_iff`   the sizes that a grid can have;
* `exists_set`, `set_of_not_contains`, `set_eq_error_iff`   a write succeeds in the grid and fails outside;
* `set_ok`          what a write does: it changes the text of one cell and nothing else.
-/

namespace FormulaGrid.Sheet

section
variable (sheet : Sheet) (row col : Nat)

theorem contains_iff : sheet.contains row col = true ↔ row < sheet.rows ∧ col < sheet.cols := by
  simp only [contains, Bool.and_eq_true, decide_eq_true_eq]

theorem index_div (h : sheet.contains row col) : sheet.index row col / sheet.cols = row := by
  have hcol := ((sheet.contains_iff row col).mp h).2
  rw [index, Nat.add_comm, Nat.add_mul_div_right col row (Nat.zero_lt_of_lt hcol), Nat.div_eq_of_lt hcol,
    Nat.zero_add]

theorem index_mod (h : sheet.contains row col) : sheet.index row col % sheet.cols = col := by
  have hcol := ((sheet.contains_iff row col).mp h).2
  rw [index, Nat.add_comm, Nat.add_mul_mod_self_right, Nat.mod_eq_of_lt hcol]

theorem index_inj (r c : Nat) (h : sheet.contains row col) (h' : sheet.contains r c)
    (e : sheet.index row col = sheet.index r c) : row = r ∧ col = c := by
  constructor
  · rw [← sheet.index_div row col h, ← sheet.index_div r c h', e]
  · rw [← sheet.index_mod row col h, ← sheet.index_mod r c h', e]

/-! ## reading -/

theorem get?_of_not_contains (h : ¬ sheet.contains row col) : sheet.get? row col = none := if_neg h

theorem contains_of_get? (text : String) (h : sheet.get? row col = some text) : sheet.contains row col :=
  (Option.ite_none_right_eq_some.mp h).1

theorem exists_get? (h : sheet.contains row col) : ∃ text, sheet.get? row col = some text := by
  rw [get?, if_pos h]
  exact ⟨_, Array.getElem?_eq_getElem (sheet.index_lt row col h)⟩

theorem get?_blank (rows cols : Nat) (h : (blank rows cols).contains row col) :
    (blank rows cols).get? row col = some "" := by
  have hlt := (blank rows cols).index_lt row col h
  rw [get?, if_pos h, Array.getElem?_eq_getElem hlt]
  exact congrArg some (Array.getElem_replicate _)

theorem blank?_eq_ok_iff (rows cols : Nat) : blank? rows cols = .ok sheet ↔
    rows * cols ≤ maxCells ∧ sheet = blank rows cols := by
  unfold blank?
  split
  · next hsize => exact ⟨fun h => ⟨hsize, (Except.ok.inj h).symm⟩, fun h => congrArg Except.ok h.2.symm⟩
  · next hsize => exact ⟨fun h => (nomatch h), fun h => absurd h.1 hsize⟩

/-! ## writing -/

theorem exists_set (text : String) (h : sheet.contains row col) :
    ∃ sheet', sheet.set row col text = .ok sheet' := ⟨_, if_pos h⟩

theorem set_of_not_contains (text : String) (h : ¬ sheet.contains row col) :
    sheet.set row col text = .error (.outOfBounds row col sheet.rows sheet.cols) := if_neg h

theorem set_eq_error_iff (text : String) (cause : SheetError) : sheet.set row col text = .error cause ↔
    ¬ sheet.contains row col ∧ cause = .outOfBounds row col sheet.rows sheet.cols := by
  unfold set
  split
  · next hin => exact ⟨fun h => (nomatch h), fun h => absurd hin h.1⟩
  · next hout =>
    rw [Except.error.injEq]
    exact ⟨fun h => ⟨hout, h.symm⟩, fun h => h.2.symm⟩

/-- **A write changes the text of one cell**, and neither the other cells nor the size of the grid. -/
theorem set_ok (text : String) (sheet' : Sheet) (h : sheet.set row col text = .ok sheet') :
    sheet.contains row col ∧ sheet'.rows = sheet.rows ∧ sheet'.cols = sheet.cols ∧
      ∀ r c, sheet'.get? r c = if r = row ∧ c = col then some text else sheet.get? r c := by
  unfold set at h
  split at h
  · next hin =>
    obtain rfl := Except.ok.inj h
    refine ⟨hin, rfl, rfl, fun r c => ?_⟩
    show (if sheet.contains r c then
      (sheet.cells.setIfInBounds (sheet.index row col) text)[sheet.index r c]? else none) = _
    by_cases hrc : sheet.contains r c
    · have hplace : sheet.index row col = sheet.index r c ↔ r = row ∧ c = col := by
        constructor
        · intro e
          obtain ⟨rfl, rfl⟩ := sheet.index_inj row col r c hin hrc e
          exact ⟨rfl, rfl⟩
        · rintro ⟨rfl, rfl⟩
          rfl
      rw [if_pos hrc, Array.getElem?_setIfInBounds, get?, if_pos hrc]
      by_cases e : r = row ∧ c = col
      · rw [if_pos (hplace.mpr e), if_pos e, if_pos (sheet.index_lt row col hin)]
      · rw [if_neg (mt hplace.mp e), if_neg e]
    · have hne : ¬ (r = row ∧ c = col) := by
        rintro ⟨rfl, rfl⟩
        exact hrc hin
      rw [if_neg hrc, if_neg hne, get?_of_not_contains sheet r c hrc]
  · cases h

theorem contains_set (text : String) (sheet' : Sheet) (h : sheet.set row col text = .ok sheet') (r c : Nat) :
    sheet'.contains r c = sheet.contains r c := by
  obtain ⟨_, hrows, hcols, _⟩ := sheet.set_ok row col text sheet' h
  rw [contains, contains, hrows, hcols]

end

end FormulaGrid.Sheet
