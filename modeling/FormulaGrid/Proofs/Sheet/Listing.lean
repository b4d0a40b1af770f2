import FormulaGrid.Proofs.Sheet.Cells

/-!
# The listing of a sheet

* `contains_place`, `get?_place`   the places of the cells, from the first row on;
* `mem_nonBlank_iff`   the listing has every cell that is not blank, with its text, and nothing else;
* `Precedes`, `pairwise_nonBlank`   it goes row by row, and so no cell comes twice;
* `ext_get?`           a sheet is known by its size and its texts;
* `Pending`            a sheet that becomes another by writing cells: `Pending.exists_set` writes the first,
                       `Pending.eq_of_nil` has none left, and `pending_blank` begins with a listing.
-/

namespace FormulaGrid.Sheet

section
variable (sheet : Sheet)

/-! ## places -/

theorem index_place (i : Nat) : sheet.index (i / sheet.cols) (i % sheet.cols) = i :=
  Nat.div_add_mod' i sheet.cols

theorem contains_place (i : Nat) : sheet.contains (i / sheet.cols) (i % sheet.cols) ↔ i < sheet.cells.size := by
  constructor
  · intro h
    rw [← sheet.index_place i]
    exact sheet.index_lt _ _ h
  · intro h
    rw [sheet.size_cells] at h
    have hpos : 0 < sheet.cols := Nat.pos_of_ne_zero fun hzero => by
      rw [hzero, Nat.mul_zero] at h
      exact Nat.not_lt_zero i h
    exact (sheet.contains_iff _ _).mpr ⟨(Nat.div_lt_iff_lt_mul hpos).mpr h, Nat.mod_lt i hpos⟩

theorem get?_place (i : Nat) : sheet.get? (i / sheet.cols) (i % sheet.cols) = sheet.cells[i]? := by
  by_cases h : i < sheet.cells.size
  · rw [get?, if_pos ((sheet.contains_place i).mpr h), sheet.index_place i]
  · rw [sheet.get?_of_not_contains _ _ (mt (sheet.contains_place i).mp h)]
    exact (Array.getElem?_eq_none (Nat.le_of_not_lt h)).symm

/-! ## the listing -/

/-- **The listing has the cells that are not blank, with their texts.** -/
theorem mem_nonBlank_iff (cell : CellRef) (text : String) :
    (cell, text) ∈ sheet.nonBlank ↔ sheet.get? cell.row cell.col = some text ∧ text ≠ "" := by
  have hplace : (cell, text) ∈ sheet.nonBlank ↔ ∃ i, sheet.cells[i]? = some text ∧ text ≠ "" ∧
      cell = ⟨i / sheet.cols, i % sheet.cols⟩ := by
    rw [nonBlank, List.mem_filterMap]
    constructor
    · rintro ⟨⟨text', i⟩, hmem, h⟩
      obtain ⟨hne, h⟩ := Option.ite_none_left_eq_some.mp h
      obtain ⟨rfl, rfl⟩ := Prod.mk.inj (Option.some.inj h)
      rw [List.mem_zipIdx_iff_getElem?, Array.getElem?_toList] at hmem
      exact ⟨i, hmem, fun e => hne (String.isEmpty_iff.mpr e), rfl⟩
    · rintro ⟨i, hi, hne, rfl⟩
      refine ⟨(text, i), ?_, if_neg fun e => hne (String.isEmpty_iff.mp e)⟩
      rw [List.mem_zipIdx_iff_getElem?, Array.getElem?_toList]
      exact hi
  rw [hplace]
  constructor
  · rintro ⟨i, hi, hne, rfl⟩
    exact ⟨(sheet.get?_place i).trans hi, hne⟩
  · rintro ⟨h, hne⟩
    have hin := sheet.contains_of_get? _ _ _ h
    refine ⟨sheet.index cell.row cell.col, ?_, hne, ?_⟩
    · rw [get?, if_pos hin] at h
      exact h
    · rw [sheet.index_div _ _ hin, sheet.index_mod _ _ hin]

/-- row by row, and from the left inside a row -/
def Precedes (a b : CellRef) : Prop := a.row < b.row ∨ a.row = b.row ∧ a.col < b.col

theorem precedes_place (cols i j : Nat) (h : i < j) : Precedes ⟨i / cols, i % cols⟩ ⟨j / cols, j % cols⟩ := by
  show i / cols < j / cols ∨ i / cols = j / cols ∧ i % cols < j % cols
  have hrow : i / cols ≤ j / cols := Nat.div_le_div_right (Nat.le_of_lt h)
  rcases Nat.lt_or_eq_of_le hrow with hlt | heq
  · exact .inl hlt
  · have hi := Nat.div_add_mod i cols
    have hj := Nat.div_add_mod j cols
    rw [heq] at hi
    omega

/-- **The listing goes row by row**, each cell once. -/
theorem pairwise_nonBlank : (sheet.nonBlank.map Prod.fst).Pairwise Precedes := by
  have hplaces : sheet.cells.toList.zipIdx.Pairwise fun a b => a.2 < b.2 := by
    apply List.pairwise_map.mp
    show (sheet.cells.toList.zipIdx.map Prod.snd).Pairwise (· < ·)
    rw [List.zipIdx_map_snd]
    exact List.pairwise_lt_range' 1
  rw [List.pairwise_map, nonBlank]
  apply hplaces.filterMap
  intro a b hab c hc d hd
  obtain ⟨_, hc⟩ := Option.ite_none_left_eq_some.mp hc
  obtain ⟨_, hd⟩ := Option.ite_none_left_eq_some.mp hd
  rw [← Option.some.inj hc, ← Option.some.inj hd]
  exact precedes_place sheet.cols a.2 b.2 hab

/-- **A sheet is known by its size and the texts of its cells.** -/
theorem ext_get? (sheet' : Sheet) (hrows : sheet.rows = sheet'.rows) (hcols : sheet.cols = sheet'.cols)
    (h : ∀ row col, sheet.get? row col = sheet'.get? row col) : sheet = sheet' := by
  have hcells : sheet.cells = sheet'.cells := Array.ext_getElem? fun i => by
    rw [← sheet.get?_place i, ← sheet'.get?_place i, hcols]
    exact h _ _
  rw [Sheet.mk.injEq]
  exact ⟨hrows, hcols, hcells⟩

end

/-! ## writing a listing -/

/-- a sheet that becomes the target by writing cells of the target into it: a cell that does not yet have its text
is among them -/
structure Pending (target : Sheet) (pairs : List (CellRef × String)) (sheet : Sheet) : Prop where
  rows_eq : sheet.rows = target.rows
  cols_eq : sheet.cols = target.cols
  text_eq : ∀ cell text, (cell, text) ∈ pairs → target.get? cell.row cell.col = some text
  rest : ∀ cell : CellRef, sheet.get? cell.row cell.col = target.get? cell.row cell.col ∨
    ∃ text, (cell, text) ∈ pairs

section
variable {target sheet : Sheet}

theorem Pending.eq_of_nil (h : Pending target [] sheet) : sheet = target := by
  refine sheet.ext_get? target h.rows_eq h.cols_eq fun row col => ?_
  obtain htext | ⟨_, hmem⟩ := h.rest ⟨row, col⟩
  · exact htext
  · cases hmem

/-- writing the first cell leaves the others to be written -/
theorem Pending.exists_set {cell : CellRef} {text : String} {pairs : List (CellRef × String)}
    (h : Pending target ((cell, text) :: pairs) sheet) : target.contains cell.row cell.col ∧
      ∃ sheet', sheet.set cell.row cell.col text = .ok sheet' ∧ Pending target pairs sheet' := by
  have htext := h.text_eq cell text List.mem_cons_self
  have hin := target.contains_of_get? _ _ _ htext
  have hin' : sheet.contains cell.row cell.col := by
    rw [contains, h.rows_eq, h.cols_eq]
    exact hin
  obtain ⟨sheet', hset⟩ := sheet.exists_set _ _ text hin'
  obtain ⟨_, hrows, hcols, hget⟩ := sheet.set_ok _ _ text sheet' hset
  refine ⟨hin, sheet', hset, hrows.trans h.rows_eq, hcols.trans h.cols_eq,
    fun other text' hmem => h.text_eq other text' (List.mem_cons_of_mem _ hmem), fun other => ?_⟩
  rw [hget]
  by_cases e : other.row = cell.row ∧ other.col = cell.col
  · left
    rw [if_pos e, e.1, e.2, htext]
  · rw [if_neg e]
    obtain htext' | ⟨text', hmem⟩ := h.rest other
    · exact .inl htext'
    -- a cell elsewhere is not the one that was written
    · rcases List.mem_cons.mp hmem with heq | hmem
      · obtain ⟨rfl, rfl⟩ := Prod.mk.inj heq
        exact absurd ⟨rfl, rfl⟩ e
      · exact .inr ⟨text', hmem⟩

/-- the listing of a sheet, in any order, is all that a blank sheet of its size lacks -/
theorem pending_blank (target : Sheet) (pairs : List (CellRef × String)) (h : pairs.Perm target.nonBlank) :
    Pending target pairs (blank target.rows target.cols) := by
  refine ⟨rfl, rfl, fun cell text hmem => ((target.mem_nonBlank_iff cell text).mp (h.mem_iff.mp hmem)).1,
    fun cell => ?_⟩
  by_cases hin : target.contains cell.row cell.col
  · obtain ⟨text, htext⟩ := target.exists_get? _ _ hin
    by_cases hblank : text = ""
    · left
      rw [htext, hblank]
      exact get?_blank _ _ _ _ hin
    · exact .inr ⟨text, h.mem_iff.mpr ((target.mem_nonBlank_iff cell text).mpr ⟨htext, hblank⟩)⟩
  · left
    rw [target.get?_of_not_contains _ _ hin]
    exact get?_of_not_contains _ _ _ hin

end

end FormulaGrid.Sheet
