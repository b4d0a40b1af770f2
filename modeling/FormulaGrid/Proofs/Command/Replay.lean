import FormulaGrid.Command.Run
import FormulaGrid.Proofs.Command.RoundTrip
import FormulaGrid.Proofs.Document.Runs
import FormulaGrid.Proofs.Sheet.Listing

/-!
# A listing, run as commands

* `runSilently`, `replay`   a document after a line that succeeds and prints nothing, and after a list of them;
* `runSilently_write`       the line that sets a cell of the grid is one;
* `replay_of_pending`       lines for the cells that a sheet still lacks;
* `replay_listing`          the listing of a document, in any order, gives a new one the same sheet.
-/

namespace FormulaGrid.Command

open Document

/-- the document after a line that succeeds and prints nothing -/
def runSilently (document : Document) (line : String) : Option Document :=
  match parse line with
  | .error _ => none
  | .ok command =>
    match command.run document with
    | (next, .ok .silent) => some next
    | _ => none

/-- the document after lines that all succeed and print nothing -/
def replay (document : Document) (lines : List String) : Option Document := lines.foldlM runSilently document

theorem replay_cons (document : Document) (line : String) (lines : List String) :
    replay document (line :: lines) = (runSilently document line).bind fun next => replay next lines :=
  List.foldlM_cons

/-- a grid that is not too large has a number for each of its rows and columns -/
theorem numbered_of_contains (sheet : Sheet) (hsize : sheet.rows * sheet.cols ≤ maxCells) (cell : CellRef)
    (h : sheet.contains cell.row cell.col) : Numbered cell := by
  obtain ⟨hrow, hcol⟩ := (sheet.contains_iff _ _).mp h
  have hrows : sheet.rows ≤ sheet.rows * sheet.cols := Nat.le_mul_of_pos_right _ (Nat.zero_lt_of_lt hcol)
  have hcols : sheet.cols ≤ sheet.rows * sheet.cols := Nat.le_mul_of_pos_left _ (Nat.zero_lt_of_lt hrow)
  have hmax : maxCells ≤ Number.maxIndex := by decide
  exact ⟨hrow.trans_le ((hrows.trans hsize).trans hmax), hcol.trans_le ((hcols.trans hsize).trans hmax)⟩

theorem runSilently_write (document : Document) (cell : CellRef) (text : String) (sheet : Sheet)
    (hcell : Numbered cell) (hset : document.sheet.set cell.row cell.col text = .ok sheet) :
    runSilently document (set cell text).write = some { document with sheet := sheet } := by
  rw [runSilently, parse_of_spells (set cell text) hcell _ (spells_write _)]
  simp only [run, setCell, hset]
  rfl

/-- **The lines for the cells that a sheet lacks make it the target**, each without a word. -/
theorem replay_of_pending (target : Sheet) (hsize : target.rows * target.cols ≤ maxCells)
    (pairs : List (CellRef × String)) (document : Document) (h : target.Pending pairs document.sheet) :
    replay document (pairs.map fun (cell, text) => (set cell text).write) =
      some { document with sheet := target } := by
  induction pairs generalizing document with
  | nil =>
    rw [← h.eq_of_nil]
    rfl
  | cons pair pairs ih =>
    obtain ⟨cell, text⟩ := pair
    obtain ⟨hin, sheet, hset, hrest⟩ := h.exists_set
    have hcell := numbered_of_contains target hsize cell hin
    rw [List.map_cons, replay_cons, runSilently_write document cell text sheet hcell hset]
    exact ih { document with sheet := sheet } hrest

/-- **A listing restores the sheet.** After any run of a new document, a line for each cell that is not blank, in
any order, gives another new document the same sheet, and no line fails or prints anything. -/
theorem replay_listing {rows cols : Nat} {clickToEdit : ClickToEdit} {start fresh : Document}
    (h : Constructed rows cols clickToEdit start) (hfresh : Constructed rows cols clickToEdit fresh)
    (ops : List Operation) (pairs : List (CellRef × String))
    (hpairs : pairs.Perm (Document.run start ops).sheet.nonBlank) :
    replay fresh (pairs.map fun (cell, text) => (set cell text).write) =
      some { fresh with sheet := (Document.run start ops).sheet } := by
  have hrun := consistent_run h.consistent ops
  have hrows : (Document.run start ops).sheet.rows = rows := hrun.rows_eq
  have hcols : (Document.run start ops).sheet.cols = cols := hrun.cols_eq
  have hsize : (Document.run start ops).sheet.rows * (Document.run start ops).sheet.cols ≤ maxCells := by
    rw [hrows, hcols]
    exact h.size_le
  obtain ⟨_, _, rfl⟩ := hfresh.eq
  apply replay_of_pending _ hsize
  have hpending := Sheet.pending_blank _ pairs hpairs
  rw [hrows, hcols] at hpending
  exact hpending

/-- a draft and a direct write, one text with blanks in front and one a formula, listed from the end -/
theorem replay_listing_from_the_end :
    let start := ofSheet (Sheet.blank 2 3) .reclick
    let ops := [.setCell ⟨0, 1⟩ " \t7", .beginEdit 5 5, .setBuffer "=B1*2", .blur]
    replay start ["set C2 =B1*2", "set B1  \t7"] = some { start with sheet := (Document.run start ops).sheet } := by
  intro start ops
  have hnew : Constructed 2 3 .reclick start := .new (by decide) (by decide) rfl
  have hlist : (Document.run start ops).sheet.nonBlank = [(⟨0, 1⟩, " \t7"), (⟨1, 2⟩, "=B1*2")] := by decide +kernel
  have hperm : [(⟨1, 2⟩, "=B1*2"), (⟨0, 1⟩, " \t7")].Perm (Document.run start ops).sheet.nonBlank :=
    hlist ▸ List.Perm.swap _ _ _
  have hlines : [((⟨1, 2⟩, "=B1*2") : CellRef × String), (⟨0, 1⟩, " \t7")].map
      (fun (cell, text) => (set cell text).write) = ["set C2 =B1*2", "set B1  \t7"] := by decide +kernel
  rw [← hlines]
  exact replay_listing hnew hnew ops _ hperm

end FormulaGrid.Command
