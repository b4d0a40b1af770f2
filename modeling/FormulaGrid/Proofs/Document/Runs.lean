import Mathlib.Data.List.Induction
import FormulaGrid.Document.Operation
import FormulaGrid.Proofs.Sheet.Cells

/-!
# Runs of operations

* `Operation`, `Operation.apply`   the operations on documents, with what they are given;
* `after`, `run`       a document after one operation, and after a list of them;
* `Constructed`        a document as it is made, with at least one cell;
* `Consistent`         the selection lies in the grid and a closed editor is empty, in a document of the
                       given size and click policy;
* `opened`, `written`  the cell that an operation opens for editing, and the text it writes into a cell;
* `Step`, `step_apply` what an operation can do to a consistent document;
* `editing_after`, `raw_after`   when the editor is open after an operation, and which cell has another text;
* `consistent_run`     every run keeps a document consistent;
* `apply_ok`           in a consistent document only a write into a cell that the operation names can fail.

All that is said of runs comes from `step_apply`, so an operation that changes needs one case of it.
-/

namespace FormulaGrid.Document

/-! ## operations -/

inductive Operation where
  | select (row col : Nat)
  | beginEdit (row col : Nat)
  | beginEditSelected
  | setBuffer (text : String)
  | commit (text : String)
  | commitAndAdvance (text : String)
  | blur
  | cancel
  | move (rows cols : Int)
  | barInput (text : String)
  | setCell (cell : CellRef) (text : String)
  | clearCell (cell : CellRef)
  deriving DecidableEq, Repr

/-- the document after an operation, and its result; most cannot fail -/
def Operation.apply (op : Operation) (document : Document) : Document × Except SheetError Unit :=
  match op with
  | .select row col => (document.select row col, .ok ())
  | .beginEdit row col => (document.beginEdit row col, .ok ())
  | .beginEditSelected => (document.beginEditSelected, .ok ())
  | .setBuffer text => (document.setBuffer text, .ok ())
  | .commit text => document.commit text
  | .commitAndAdvance text => document.commitAndAdvance text
  | .blur => document.blur
  | .cancel => (document.cancel, .ok ())
  | .move rows cols => ((document.move rows cols).1, .ok ())
  | .barInput text => document.barInput text
  | .setCell cell text => document.setCell cell text
  | .clearCell cell => document.clearCell cell

def after (document : Document) (op : Operation) : Document := (op.apply document).1

def run (document : Document) (ops : List Operation) : Document := ops.foldl after document

theorem run_concat (document : Document) (ops : List Operation) (op : Operation) :
    run document (ops ++ [op]) = after (run document ops) op := by
  rw [run, List.foldl_append]
  rfl

/-- a document as it is made, of a size that leaves it a cell -/
inductive Constructed (rows cols : Nat) (clickToEdit : ClickToEdit) : Document → Prop where
  | ofSettings {document} : ofSettings ⟨rows, cols, clickToEdit⟩ = .ok document →
      Constructed rows cols clickToEdit document
  | new {document} : 0 < rows → 0 < cols → new? rows cols clickToEdit = .ok document →
      Constructed rows cols clickToEdit document

theorem new?_eq_ok_iff (rows cols : Nat) (clickToEdit : ClickToEdit) (document : Document) :
    new? rows cols clickToEdit = .ok document ↔
      rows * cols ≤ maxCells ∧ document = ofSheet (Sheet.blank rows cols) clickToEdit := by
  unfold new?
  cases hblank : Sheet.blank? rows cols with
  | error cause =>
    refine ⟨fun h => (nomatch h), fun h => ?_⟩
    cases hblank.symm.trans ((Sheet.blank?_eq_ok_iff _ rows cols).mpr ⟨h.1, rfl⟩)
  | ok sheet =>
    obtain ⟨hsize, rfl⟩ := (sheet.blank?_eq_ok_iff rows cols).mp hblank
    exact ⟨fun h => ⟨hsize, (Except.ok.inj h).symm⟩, fun h => congrArg Except.ok h.2.symm⟩

theorem Constructed.new?_eq {rows cols : Nat} {clickToEdit : ClickToEdit} {document : Document}
    (h : Constructed rows cols clickToEdit document) :
    0 < rows ∧ 0 < cols ∧ new? rows cols clickToEdit = .ok document := by
  cases h with
  | ofSettings h =>
    unfold Document.ofSettings at h
    split at h
    · cases h
    · next hvalid =>
      split at h
      · cases h
      · next hnew =>
        obtain rfl := Except.ok.inj h
        unfold Settings.validate at hvalid
        split at hvalid
        · cases hvalid
        · next hne =>
          obtain ⟨hrows, hcols⟩ := not_or.mp hne
          exact ⟨Nat.pos_of_ne_zero hrows, Nat.pos_of_ne_zero hcols, hnew⟩
  | new hrows hcols h => exact ⟨hrows, hcols, h⟩

theorem Constructed.eq {rows cols : Nat} {clickToEdit : ClickToEdit} {document : Document}
    (h : Constructed rows cols clickToEdit document) :
    0 < rows ∧ 0 < cols ∧ document = ofSheet (Sheet.blank rows cols) clickToEdit := by
  obtain ⟨hrows, hcols, hnew⟩ := h.new?_eq
  exact ⟨hrows, hcols, ((new?_eq_ok_iff _ _ _ _).mp hnew).2⟩

theorem Constructed.size_le {rows cols : Nat} {clickToEdit : ClickToEdit} {document : Document}
    (h : Constructed rows cols clickToEdit document) : rows * cols ≤ maxCells :=
  ((new?_eq_ok_iff _ _ _ _).mp h.new?_eq.2.2).1

theorem Constructed.default : Constructed 10 5 .reclick Document.default := .ofSettings rfl

/-! ## the invariant -/

structure Consistent (rows cols : Nat) (clickToEdit : ClickToEdit) (document : Document) : Prop where
  rows_eq : document.rows = rows
  cols_eq : document.cols = cols
  clickToEdit_eq : document.clickToEdit = clickToEdit
  selected : document.sheet.contains document.selection.row document.selection.col
  buffer_eq : document.editing = false → document.buffer = ""

section
variable {rows cols : Nat} {clickToEdit : ClickToEdit} {document : Document}

theorem Constructed.consistent (h : Constructed rows cols clickToEdit document) :
    Consistent rows cols clickToEdit document := by
  obtain ⟨hrows, hcols, rfl⟩ := h.eq
  exact {
    rows_eq := rfl
    cols_eq := rfl
    clickToEdit_eq := rfl
    selected := (Sheet.contains_iff _ 0 0).mpr ⟨hrows, hcols⟩
    buffer_eq := fun _ => rfl }

theorem Consistent.contains_clamp (h : Consistent rows cols clickToEdit document) (row col : Nat) :
    document.sheet.contains (document.clamp row col).row (document.clamp row col).col := by
  obtain ⟨hrow, hcol⟩ := (document.sheet.contains_iff _ _).mp h.selected
  rw [Sheet.contains_iff]
  simp only [clamp, Document.rows, Document.cols]
  omega

theorem clamp_of_contains (cell : CellRef) (h : document.sheet.contains cell.row cell.col) :
    document.clamp cell.row cell.col = cell := by
  obtain ⟨hrow, hcol⟩ := (document.sheet.contains_iff _ _).mp h
  have hrow' : min cell.row (document.sheet.rows - 1) = cell.row := by omega
  have hcol' : min cell.col (document.sheet.cols - 1) = cell.col := by omega
  simp only [clamp, Document.rows, Document.cols, hrow', hcol']

end

/-! ## single operations -/

section
variable (document : Document)

/-- the cell that an operation opens for editing -/
def opened : Operation → Option CellRef
  | .select row col =>
    let cell := document.clamp row col
    if cell = document.selection ∧ !document.editing ∧ document.clickToEdit = .reclick then some cell
    else none
  | .beginEdit row col => some (document.clamp row col)
  | .beginEditSelected => some document.selection
  | _ => none

/-- the cell that an operation writes into, and the text -/
def written : Operation → Option (CellRef × String)
  | .commit text => some (document.selection, text)
  | .commitAndAdvance text => some (document.selection, text)
  | .barInput text => some (document.selection, text)
  | .blur => if document.editing then some (document.selection, document.buffer) else none
  | .setCell cell text => if document.sheet.contains cell.row cell.col then some (cell, text) else none
  | .clearCell cell => if document.sheet.contains cell.row cell.col then some (cell, "") else none
  | _ => none

/-- the text that an operation puts into an open editor -/
def Operation.typed : Operation → Option String
  | .setBuffer text => some text
  | _ => none

/-- the cell that an operation names and leaves as it is; clicks take the nearest cell of the grid -/
def Operation.named : Operation → Option CellRef
  | .setCell cell _ => some cell
  | .clearCell cell => some cell
  | _ => none

/-- what an operation can do, and its result -/
inductive Step (op : Operation) : Document × Except SheetError Unit → Prop where
  /-- it opens a cell with its text as the draft -/
  | opens (cell : CellRef) (text : String) : opened document op = some cell → written document op = none →
      document.raw cell = some text →
      Step op ({ document with selection := cell, editing := true, buffer := text }, .ok ())
  /-- it writes into the selected cell, closes the editor and selects a cell -/
  | commits (text : String) (sheet : Sheet) (cell : CellRef) : opened document op = none →
      written document op = some (document.selection, text) →
      document.sheet.set document.selection.row document.selection.col text = .ok sheet →
      document.sheet.contains cell.row cell.col →
      Step op (⟨sheet, cell, false, "", document.clickToEdit⟩, .ok ())
  /-- it writes into any cell and leaves the editor alone -/
  | writes (cell : CellRef) (text : String) (sheet : Sheet) : opened document op = none →
      op.typed = none → written document op = some (cell, text) →
      document.sheet.set cell.row cell.col text = .ok sheet →
      Step op ({ document with sheet := sheet }, .ok ())
  /-- it closes the editor without writing and selects a cell -/
  | leaves (cell : CellRef) : opened document op = none → written document op = none →
      document.sheet.contains cell.row cell.col →
      Step op ({ document with selection := cell, editing := false, buffer := "" }, .ok ())
  /-- it changes the draft -/
  | types (text : String) : opened document op = none → written document op = none →
      document.editing = true → op.typed = some text →
      Step op ({ document with buffer := text }, .ok ())
  /-- it does nothing, perhaps because there is no cell of the name it has -/
  | stays (result : Except SheetError Unit) : opened document op = none → written document op = none →
      (document.editing = true → op.typed = none) → (op.named = none → result = .ok ()) →
      Step op (document, result)

/-! ## steps -/

theorem commit_of_set (text : String) (sheet : Sheet)
    (h : document.sheet.set document.selection.row document.selection.col text = .ok sheet) :
    document.commit text = (⟨sheet, document.selection, false, "", document.clickToEdit⟩, .ok ()) := by
  rw [commit, h]

theorem step_setCell (op : Operation) (cell : CellRef) (text : String) (hnamed : op.named = some cell)
    (hopened : opened document op = none) (htyped : op.typed = none) (hwritten : written document op =
      if document.sheet.contains cell.row cell.col then some (cell, text) else none) :
    Step document op (document.setCell cell text) := by
  unfold setCell
  by_cases hcell : document.sheet.contains cell.row cell.col
  · obtain ⟨sheet, hset⟩ := document.sheet.exists_set _ _ text hcell
    rw [if_pos hcell] at hwritten
    rw [hset]
    exact .writes cell text sheet hopened htyped hwritten hset
  · rw [if_neg hcell] at hwritten
    rw [document.sheet.set_of_not_contains _ _ text hcell]
    exact .stays _ hopened hwritten (fun _ => htyped) fun hnone => nomatch hnamed.symm.trans hnone

theorem step_setBuffer (text : String) :
    Step document (.setBuffer text) (document.setBuffer text, .ok ()) := by
  by_cases he : document.editing = true
  · rw [setBuffer, if_pos he]
    exact .types text rfl rfl he rfl
  · rw [setBuffer, if_neg he]
    exact .stays _ rfl rfl (fun he' => absurd he' he) fun _ => rfl

variable {rows cols : Nat} {clickToEdit : ClickToEdit} {document}
variable (h : Consistent rows cols clickToEdit document)
include h

theorem step_beginEdit (op : Operation) (row col : Nat) (cell : CellRef)
    (hcell : document.clamp row col = cell) (hopened : opened document op = some cell)
    (hwritten : written document op = none) : Step document op (document.beginEdit row col, .ok ()) := by
  have hin := h.contains_clamp row col
  rw [hcell] at hin
  obtain ⟨text, htext⟩ := document.sheet.exists_get? _ _ hin
  have hraw : document.raw cell = some text := htext
  rw [beginEdit, hcell, hraw]
  exact .opens cell text hopened hwritten hraw

/-- the selected cell lies in the grid, so a text can be written into it -/
theorem exists_commit (text : String) : ∃ sheet,
    document.sheet.set document.selection.row document.selection.col text = .ok sheet ∧
    document.commit text = (⟨sheet, document.selection, false, "", document.clickToEdit⟩, .ok ()) := by
  obtain ⟨sheet, hset⟩ := document.sheet.exists_set _ _ text h.selected
  exact ⟨sheet, hset, commit_of_set document text sheet hset⟩

theorem step_commit (op : Operation) (text : String) (hopened : opened document op = none)
    (hwritten : written document op = some (document.selection, text)) :
    Step document op (document.commit text) := by
  obtain ⟨sheet, hset, hcommit⟩ := exists_commit h text
  rw [hcommit]
  exact .commits text sheet _ hopened hwritten hset h.selected

theorem step_blur : Step document .blur document.blur := by
  by_cases he : document.editing = true
  · obtain ⟨sheet, hset, _⟩ := exists_commit h document.buffer
    rw [blur, if_pos he, commit_of_set { document with buffer := "" } _ sheet hset]
    exact .commits document.buffer sheet _ rfl (if_pos he) hset h.selected
  · rw [blur, if_neg he]
    exact .stays _ rfl (if_neg he) (fun _ => rfl) fun _ => rfl

theorem step_commitAndAdvance (text : String) :
    Step document (.commitAndAdvance text) (document.commitAndAdvance text) := by
  obtain ⟨sheet, hset, hcommit⟩ := exists_commit h text
  obtain ⟨_, hrows, hcols, _⟩ := document.sheet.set_ok _ _ text sheet hset
  have hclamp : ∀ row col, (⟨sheet, document.selection, false, "", document.clickToEdit⟩ : Document).clamp
      row col = document.clamp row col := by
    intro row col
    simp only [clamp, Document.rows, Document.cols, hrows, hcols]
  rw [commitAndAdvance, hcommit]
  simp only [move, Bool.false_eq_true, if_false, hclamp]
  exact .commits text sheet _ rfl rfl hset (h.contains_clamp _ _)

theorem step_select (row col : Nat) : Step document (.select row col) (document.select row col, .ok ()) := by
  by_cases hopen : document.clamp row col = document.selection ∧ !document.editing ∧
      document.clickToEdit = .reclick
  · rw [select, if_pos hopen]
    exact step_beginEdit h _ _ _ _ (clamp_of_contains _ (h.contains_clamp row col)) (if_pos hopen) rfl
  · rw [select, if_neg hopen]
    exact .leaves _ (if_neg hopen) rfl (h.contains_clamp row col)

theorem step_move (rows cols : Int) :
    Step document (.move rows cols) ((document.move rows cols).1, .ok ()) := by
  cases he : document.editing with
  | true =>
    rw [move, if_pos he]
    exact .stays _ rfl rfl (fun _ => rfl) fun _ => rfl
  | false =>
    have hclosed : ¬ document.editing = true := Bool.eq_false_iff.mp he
    rw [move, if_neg hclosed]
    -- the editor is closed, and so its text is empty before and after
    have e : ∀ cell, ({ document with selection := cell } : Document) =
        { document with selection := cell, editing := false, buffer := "" } := fun cell => by
      rw [Document.mk.injEq]
      exact ⟨rfl, rfl, he, h.buffer_eq he, rfl⟩
    simp only [e]
    exact .leaves _ rfl rfl (h.contains_clamp _ _)

/-- **What an operation does to a consistent document.** -/
theorem step_apply (op : Operation) : Step document op (op.apply document) := by
  cases op with
  | select row col => exact step_select h row col
  | beginEdit row col => exact step_beginEdit h _ row col _ rfl rfl rfl
  | beginEditSelected => exact step_beginEdit h _ _ _ _ (clamp_of_contains _ h.selected) rfl rfl
  | setBuffer text => exact step_setBuffer document text
  | commit text => exact step_commit h _ text rfl rfl
  | commitAndAdvance text => exact step_commitAndAdvance h text
  | blur => exact step_blur h
  | cancel => exact .leaves _ rfl rfl h.selected
  | move rows cols => exact step_move h rows cols
  | barInput text => exact step_commit h _ text rfl rfl
  | setCell cell text => exact step_setCell document _ cell text rfl rfl rfl rfl
  | clearCell cell => exact step_setCell document _ cell "" rfl rfl rfl rfl

/-- **Every operation keeps a document consistent.** -/
theorem consistent_after (op : Operation) : Consistent rows cols clickToEdit (after document op) := by
  have hstep := step_apply h op
  unfold after
  generalize op.apply document = next at hstep
  cases hstep with
  | opens cell text _ _ hraw =>
    have hcell := document.sheet.contains_of_get? _ _ text hraw
    exact ⟨h.rows_eq, h.cols_eq, h.clickToEdit_eq, hcell, fun he => nomatch he⟩
  | commits text sheet cell _ _ hset hcell =>
    obtain ⟨_, hrows, hcols, _⟩ := document.sheet.set_ok _ _ text sheet hset
    have hin := document.sheet.contains_set _ _ text sheet hset cell.row cell.col
    exact ⟨hrows.trans h.rows_eq, hcols.trans h.cols_eq, h.clickToEdit_eq, hin.trans hcell, fun _ => rfl⟩
  | writes cell text sheet _ _ _ hset =>
    obtain ⟨_, hrows, hcols, _⟩ := document.sheet.set_ok _ _ text sheet hset
    have hin := document.sheet.contains_set _ _ text sheet hset document.selection.row document.selection.col
    exact ⟨hrows.trans h.rows_eq, hcols.trans h.cols_eq, h.clickToEdit_eq, hin.trans h.selected, h.buffer_eq⟩
  | leaves cell _ _ hcell => exact ⟨h.rows_eq, h.cols_eq, h.clickToEdit_eq, hcell, fun _ => rfl⟩
  | types text _ _ he _ =>
    exact ⟨h.rows_eq, h.cols_eq, h.clickToEdit_eq, h.selected, fun he' => absurd he (Bool.eq_false_iff.mp he')⟩
  | stays _ _ _ _ _ => exact h

/-- an editor that is open after an operation was opened by it, or was open before -/
theorem editing_after (op : Operation) (he : (after document op).editing = true) :
    (∃ cell text, opened document op = some cell ∧ document.raw cell = some text ∧
      (after document op).selection = cell ∧ (after document op).buffer = text) ∨
    (opened document op = none ∧ document.editing = true ∧
      (after document op).selection = document.selection ∧
      (after document op).buffer = op.typed.getD document.buffer) := by
  have hstep := step_apply h op
  unfold after at he ⊢
  generalize op.apply document = next at hstep he
  cases hstep with
  | opens cell text hcell _ hraw => exact .inl ⟨cell, text, hcell, hraw, rfl, rfl⟩
  | commits => cases he
  | leaves => cases he
  | writes _ _ _ hnone htyped =>
    rw [htyped]
    exact .inr ⟨hnone, he, rfl, rfl⟩
  | types text hnone _ he' htyped =>
    rw [htyped]
    exact .inr ⟨hnone, he', rfl, rfl⟩
  | stays _ hnone _ htyped =>
    rw [htyped he]
    exact .inr ⟨hnone, he, rfl, rfl⟩

/-- **An operation changes the text of the cell it writes into, and of no other.** -/
theorem raw_after (op : Operation) (cell : CellRef) :
    (after document op).raw cell = match written document op with
      | some (target, text) => if cell = target then some text else document.raw cell
      | none => document.raw cell := by
  have hset : ∀ (target : CellRef) (text : String) (sheet : Sheet),
      document.sheet.set target.row target.col text = .ok sheet →
      sheet.get? cell.row cell.col = if cell = target then some text else document.raw cell := by
    intro target text sheet hset
    obtain ⟨_, _, _, hget⟩ := document.sheet.set_ok _ _ text sheet hset
    obtain ⟨row, col⟩ := cell
    obtain ⟨row', col'⟩ := target
    simp only [hget, CellRef.mk.injEq]
    rfl
  have hstep := step_apply h op
  unfold after
  generalize op.apply document = next at hstep
  cases hstep with
  | opens _ _ _ hnone => rw [hnone]; rfl
  | commits text sheet _ _ hwritten hok =>
    rw [hwritten]
    exact hset _ text sheet hok
  | writes target text sheet _ _ hwritten hok =>
    rw [hwritten]
    exact hset target text sheet hok
  | leaves _ _ hnone => rw [hnone]; rfl
  | types _ _ hnone => rw [hnone]; rfl
  | stays _ _ hnone => rw [hnone]

/-- an operation that fails writes nothing -/
theorem written_of_error (op : Operation) (hfail : (op.apply document).2 ≠ .ok ()) :
    written document op = none := by
  have hstep := step_apply h op
  generalize op.apply document = next at hstep hfail
  cases hstep with
  | stays _ _ hnone => exact hnone
  | _ => exact absurd rfl hfail

/-- **Every run keeps a document consistent.** -/
theorem consistent_run (ops : List Operation) : Consistent rows cols clickToEdit (run document ops) := by
  induction ops using List.reverseRecOn with
  | nil => exact h
  | append_singleton ops op ih =>
    rw [run_concat]
    exact consistent_after ih op

/-- **In a consistent document only a write into a cell that the operation names can fail.** -/
theorem apply_ok (op : Operation) (hop : op.named = none) : (op.apply document).2 = .ok () := by
  have hstep := step_apply h op
  generalize op.apply document = next at hstep
  cases hstep with
  | stays result _ _ _ hok => exact hok hop
  | _ => rfl

end

/-- **Every run of a new document keeps its selection in the grid, its editor empty while closed, its size and
its click policy**, and so the selected cell can be written after it. -/
theorem constructed_run_consistent {rows cols : Nat} {clickToEdit : ClickToEdit} {document : Document}
    (h : Constructed rows cols clickToEdit document) (ops : List Operation) :
    Consistent rows cols clickToEdit (run document ops) ∧ (run document ops).blur.2 = .ok () ∧
      ∀ text, ((run document ops).commit text).2 = .ok () ∧
        ((run document ops).commitAndAdvance text).2 = .ok () ∧
        ((run document ops).barInput text).2 = .ok () := by
  have hrun := consistent_run h.consistent ops
  exact ⟨hrun, apply_ok hrun .blur rfl, fun text => ⟨apply_ok hrun (.commit text) rfl,
    apply_ok hrun (.commitAndAdvance text) rfl, apply_ok hrun (.barInput text) rfl⟩⟩

/-- a draft written from a cell past the corner, a write outside the grid, and a step off the right edge -/
theorem run_past_the_edges :
    Constructed 2 3 .reclick (ofSheet (Sheet.blank 2 3) .reclick) ∧
      let document := run (ofSheet (Sheet.blank 2 3) .reclick) [.beginEdit 7 7, .setBuffer "draft", .move (-1) 0,
        .setCell ⟨9, 9⟩ "lost", .blur, .select 0 7, .commitAndAdvance "text"]
      Consistent 2 3 .reclick document ∧ document.blur.2 = .ok () ∧
        ∀ text, (document.commit text).2 = .ok () ∧ (document.commitAndAdvance text).2 = .ok () ∧
          (document.barInput text).2 = .ok () := by
  have hnew : Constructed 2 3 .reclick (ofSheet (Sheet.blank 2 3) .reclick) := .new (by decide) (by decide) rfl
  exact ⟨hnew, constructed_run_consistent hnew _⟩

end FormulaGrid.Document
