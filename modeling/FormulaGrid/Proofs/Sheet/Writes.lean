import Mathlib.Algebra.Group.Nat.Defs
import Mathlib.Data.List.Induction
import FormulaGrid.Proofs.Sheet.Listing

/-!
# A sheet as a map

* `Write`, `after`, `run`   writing and clearing cells, and the sheet after one of these and after a list of them;
* `lastText`          the text that a list of writes leaves in a cell;
* `Holds`             a sheet with the texts of a map in the cells of its grid: `holds_blank`, `Holds.after`,
                      `holds_run`;
* `toNat_word_index`  the place of a cell is the same in words of 64 bits;
* `IsMap`             what can be seen of such a sheet: reading, writing, places, and the listing;
* `sheet_is_map`      every sheet that can be made is a map, whatever is written into it.
-/

namespace FormulaGrid.Sheet

/-! ## writes -/

inductive Write where
  | set (row col : Nat) (text : String)
  | clear (row col : Nat)
  deriving DecidableEq, Repr

def Write.row : Write → Nat
  | .set row _ _ => row
  | .clear row _ => row

def Write.col : Write → Nat
  | .set _ col _ => col
  | .clear _ col => col

/-- the text that is written; a cell that is cleared has the empty one -/
def Write.text : Write → String
  | .set _ _ text => text
  | .clear _ _ => ""

def Write.apply (write : Write) (sheet : Sheet) : Except SheetError Sheet :=
  match write with
  | .set row col text => sheet.set row col text
  | .clear row col => sheet.clear row col

theorem Write.apply_eq (write : Write) (sheet : Sheet) :
    write.apply sheet = sheet.set write.row write.col write.text := by
  cases write <;> rfl

/-- the sheet after a write, the same one if that fails -/
def after (sheet : Sheet) (write : Write) : Sheet :=
  match write.apply sheet with
  | .ok next => next
  | .error _ => sheet

def run (sheet : Sheet) (writes : List Write) : Sheet := writes.foldl after sheet

theorem run_concat (sheet : Sheet) (writes : List Write) (write : Write) :
    run sheet (writes ++ [write]) = after (run sheet writes) write := by
  rw [run, List.foldl_append]
  rfl

/-- the text of the last write into a cell, empty if there was none -/
def lastText (writes : List Write) (row col : Nat) : String :=
  ((writes.filter fun write => row = write.row ∧ col = write.col).getLast?.map Write.text).getD ""

theorem lastText_concat (writes : List Write) (write : Write) (row col : Nat) :
    lastText (writes ++ [write]) row col =
      if row = write.row ∧ col = write.col then write.text else lastText writes row col := by
  rw [lastText, List.filter_append]
  by_cases h : row = write.row ∧ col = write.col
  · rw [if_pos h, List.filter_cons_of_pos (by simpa using h), List.filter_nil, List.getLast?_concat]
    rfl
  · rw [if_neg h, List.filter_cons_of_neg (by simpa using h), List.filter_nil, List.append_nil]
    rfl

/-! ## the texts of a map -/

/-- a sheet of the given size, with the texts of the map -/
structure Holds (rows cols : Nat) (text : (row col : Nat) → String) (sheet : Sheet) : Prop where
  rows_eq : sheet.rows = rows
  cols_eq : sheet.cols = cols
  get?_eq : ∀ row col, sheet.get? row col = if row < rows ∧ col < cols then some (text row col) else none

theorem holds_blank (rows cols : Nat) : Holds rows cols (fun _ _ => "") (blank rows cols) := by
  refine ⟨rfl, rfl, fun row col => ?_⟩
  have hcontains := (blank rows cols).contains_iff row col
  by_cases hin : row < rows ∧ col < cols
  · rw [if_pos hin, get?_blank row col rows cols (hcontains.mpr hin)]
  · rw [if_neg hin, get?_of_not_contains _ _ _ (mt hcontains.mp hin)]

section
variable {rows cols : Nat} {text : (row col : Nat) → String} {sheet : Sheet} (h : Holds rows cols text sheet)
include h

theorem Holds.contains_iff (row col : Nat) : sheet.contains row col = true ↔ row < rows ∧ col < cols := by
  rw [Sheet.contains_iff, h.rows_eq, h.cols_eq]

theorem Holds.error_iff (write : Write) (cause : SheetError) : write.apply sheet = .error cause ↔
    ¬ (write.row < rows ∧ write.col < cols) ∧ cause = .outOfBounds write.row write.col rows cols := by
  rw [write.apply_eq, set_eq_error_iff, h.contains_iff, h.rows_eq, h.cols_eq]

/-- **A write changes the map at its cell.** Outside the grid it changes nothing, and nothing can be read there. -/
theorem Holds.after (write : Write) : Holds rows cols
    (fun row col => if row = write.row ∧ col = write.col then write.text else text row col) (after sheet write) := by
  by_cases hin : write.row < rows ∧ write.col < cols
  · obtain ⟨next, hset⟩ := sheet.exists_set _ _ write.text ((h.contains_iff _ _).mpr hin)
    obtain ⟨_, hrows, hcols, hget⟩ := sheet.set_ok _ _ _ next hset
    have hafter : Sheet.after sheet write = next := by rw [Sheet.after, write.apply_eq, hset]
    rw [hafter]
    refine ⟨hrows.trans h.rows_eq, hcols.trans h.cols_eq, fun row col => ?_⟩
    rw [hget, h.get?_eq]
    by_cases hcell : row = write.row ∧ col = write.col
    · obtain ⟨rfl, rfl⟩ := hcell
      simp only [and_self, if_true, if_pos hin]
    · simp only [if_neg hcell]
  · have hfail := (h.error_iff write _).mpr ⟨hin, rfl⟩
    have hafter : Sheet.after sheet write = sheet := by rw [Sheet.after, hfail]
    rw [hafter]
    refine ⟨h.rows_eq, h.cols_eq, fun row col => ?_⟩
    rw [h.get?_eq]
    by_cases hcell : row = write.row ∧ col = write.col
    · obtain ⟨rfl, rfl⟩ := hcell
      rw [if_neg hin, if_neg hin]
    · simp only [if_neg hcell]

end

/-- **Every run of writes leaves the texts written last.** -/
theorem holds_run (rows cols : Nat) (writes : List Write) :
    Holds rows cols (lastText writes) (run (blank rows cols) writes) := by
  induction writes using List.reverseRecOn with
  | nil => exact holds_blank rows cols
  | append_singleton writes write ih =>
    have htext : lastText (writes ++ [write]) = fun row col =>
        if row = write.row ∧ col = write.col then write.text else lastText writes row col := by
      funext row col
      exact lastText_concat writes write row col
    rw [run_concat, htext]
    exact ih.after write

/-! ## places in words -/

/-- the place of a cell fits into a word, and so no step of its computation does overflow -/
theorem toNat_word_index (sheet : Sheet) (hsize : sheet.cells.size < 2 ^ 64) (row col : UInt64)
    (h : sheet.contains row.toNat col.toNat) :
    (row * UInt64.ofNat sheet.cols + col).toNat = sheet.index row.toNat col.toNat := by
  have hindex := Nat.lt_trans (sheet.index_lt row.toNat col.toNat h) hsize
  have hin := (sheet.contains_iff row.toNat col.toNat).mp h
  rw [index] at hindex ⊢
  have hcols : sheet.cols ≤ sheet.cells.size := by
    rw [sheet.size_cells]
    exact Nat.le_mul_of_pos_left _ (Nat.zero_lt_of_lt hin.1)
  have hword : (UInt64.ofNat sheet.cols).toNat = sheet.cols := UInt64.toNat_ofNat_of_lt (Nat.lt_of_le_of_lt hcols hsize)
  rw [UInt64.toNat_add, UInt64.toNat_mul, hword]
  have hmul : row.toNat * sheet.cols % 2 ^ 64 = row.toNat * sheet.cols := Nat.mod_eq_of_lt (by omega)
  rw [hmul, Nat.mod_eq_of_lt hindex]

/-! ## sheets as maps -/

/-- all that can be seen of a sheet that holds the texts of a map -/
structure IsMap (rows cols : Nat) (text : (row col : Nat) → String) (sheet : Sheet) : Prop where
  /-- a text is read in the grid and nowhere else -/
  get?_eq : ∀ row col, sheet.get? row col = if row < rows ∧ col < cols then some (text row col) else none
  /-- a write fails outside the grid and nowhere else -/
  error_iff : ∀ (write : Write) cause, write.apply sheet = .error cause ↔
    ¬ (write.row < rows ∧ write.col < cols) ∧ cause = .outOfBounds write.row write.col rows cols
  /-- a write that fails leaves every cell -/
  get?_after_error : ∀ (write : Write) cause, write.apply sheet = .error cause →
    ∀ row col, (after sheet write).get? row col = sheet.get? row col
  size_eq : sheet.cells.size = rows * cols
  /-- a cell has its place among the texts -/
  index_lt : ∀ row col, row < rows → col < cols → sheet.index row col < rows * cols
  /-- the place of a cell can be computed in words -/
  word_index : ∀ row col : UInt64, row.toNat < rows → col.toNat < cols →
    (row * UInt64.ofNat cols + col).toNat = sheet.index row.toNat col.toNat
  /-- the listing has the cells that are not blank, with their texts -/
  mem_listing : ∀ (cell : CellRef) (shown : String), (cell, shown) ∈ sheet.nonBlank ↔
    cell.row < rows ∧ cell.col < cols ∧ shown = text cell.row cell.col ∧ shown ≠ ""
  /-- the listing goes row by row, and so no cell comes twice -/
  ordered : (sheet.nonBlank.map Prod.fst).Pairwise Precedes
  /-- where a place is turned into a row and a column there are columns to divide by -/
  cols_pos : ∀ place < sheet.cells.size, 0 < cols

theorem Holds.isMap {rows cols : Nat} {text : (row col : Nat) → String} {sheet : Sheet}
    (h : Holds rows cols text sheet) (hsize : rows * cols ≤ maxCells) : IsMap rows cols text sheet where
  get?_eq := h.get?_eq
  error_iff := h.error_iff
  get?_after_error write cause hfail row col := by rw [Sheet.after, hfail]
  size_eq := by rw [sheet.size_cells, h.rows_eq, h.cols_eq]
  index_lt row col hrow hcol := by
    have hlt := sheet.index_lt row col ((h.contains_iff row col).mpr ⟨hrow, hcol⟩)
    rwa [sheet.size_cells, h.rows_eq, h.cols_eq] at hlt
  word_index row col hrow hcol := by
    have hmax : maxCells < 2 ^ 64 := by decide
    have hcells : sheet.cells.size < 2 ^ 64 := by
      rw [sheet.size_cells, h.rows_eq, h.cols_eq]
      exact Nat.lt_of_le_of_lt hsize hmax
    have hword := toNat_word_index sheet hcells row col ((h.contains_iff _ _).mpr ⟨hrow, hcol⟩)
    rwa [h.cols_eq] at hword
  mem_listing cell shown := by
    rw [mem_nonBlank_iff, h.get?_eq, Option.ite_none_right_eq_some, Option.some.injEq, and_assoc, and_assoc,
      eq_comm (a := shown)]
  ordered := sheet.pairwise_nonBlank
  cols_pos place hplace := by
    rw [sheet.size_cells, h.cols_eq] at hplace
    exact Nat.pos_of_mul_pos_left (Nat.zero_lt_of_lt hplace)

/-- **A sheet is a map on its grid.** It can be made if and only if it has no more than a million cells, however
large its sides are, and after any writes every cell of the grid has the text that was written last into it. -/
theorem sheet_is_map (rows cols : Nat) :
    ((∃ start, blank? rows cols = .ok start) ↔ rows * cols ≤ 1000000) ∧
    ∀ start, blank? rows cols = .ok start → ∀ writes, IsMap rows cols (lastText writes) (run start writes) := by
  constructor
  · constructor
    · rintro ⟨start, hstart⟩
      exact ((start.blank?_eq_ok_iff rows cols).mp hstart).1
    · intro hsize
      exact ⟨_, (blank?_eq_ok_iff _ rows cols).mpr ⟨hsize, rfl⟩⟩
  · intro start hstart writes
    obtain ⟨hsize, rfl⟩ := (start.blank?_eq_ok_iff rows cols).mp hstart
    exact (holds_run rows cols writes).isMap hsize

/-- a cell that is cleared again, a write outside the grid, and a text that is blank to the eye only -/
theorem written_two_by_three :
    let writes := [.set 1 2 "b", .set 0 1 "a", .set 7 0 "lost", .clear 0 1, .set 0 2 " "]
    blank? 2 3 = .ok (blank 2 3) ∧ IsMap 2 3 (lastText writes) (run (blank 2 3) writes) ∧
      lastText writes 0 1 = "" ∧ lastText writes 0 2 = " " ∧ lastText writes 1 2 = "b" := by
  intro writes
  have hmade : blank? 2 3 = .ok (blank 2 3) := rfl
  exact ⟨hmade, (sheet_is_map 2 3).2 _ hmade writes, by decide, by decide, by decide⟩

end FormulaGrid.Sheet
