import FormulaGrid.Proofs.Command.Failure
import FormulaGrid.Proofs.Document.Runs

/-!
# Operations that fail

* `Made`             a document as it is made, perhaps without cells;
* `target`, `apply_error_iff`   the cell that an operation writes into; it fails if that is outside the grid;
* `apply_of_error`   what a failed operation leaves: the document, but for the draft of a failed `blur`;
* `SameSize`, `sameSize_run`   no operation changes the size of the grid;
* `Fails`            the operations that fail after a run: any write into the selected cell of a grid without
                     cells, and a write into a cell that is named and outside;
* `failed_operation_keeps_iff`   a failed operation keeps the document unless it is a `blur` with a draft.

A document with cells keeps its selection in the grid, so a draft can only be lost in one without.
-/

namespace FormulaGrid.Document

/-- a document as it is made, of any size that a sheet can have -/
inductive Made : Document → Prop where
  | new {rows cols clickToEdit document} : new? rows cols clickToEdit = .ok document → Made document
  | ofSettings {settings document} : ofSettings settings = .ok document → Made document
  | default : Made Document.default

/-! ## which operations fail -/

section
variable (document : Document)

/-- the cell that an operation writes into, in the grid or outside -/
def target : Operation → Option CellRef
  | .commit _ => some document.selection
  | .commitAndAdvance _ => some document.selection
  | .barInput _ => some document.selection
  | .blur => if document.editing then some document.selection else none
  | .setCell cell _ => some cell
  | .clearCell cell => some cell
  | _ => none

/-- the error of a write outside the grid -/
def Outside (cell : CellRef) (cause : SheetError) : Prop :=
  ¬ document.sheet.contains cell.row cell.col ∧ cause = .outOfBounds cell.row cell.col document.rows document.cols

theorem set_error_iff (cell : CellRef) (text : String) (cause : SheetError) :
    (document.sheet.set cell.row cell.col text).map (fun _ => ()) = .error cause ↔ document.Outside cell cause := by
  rw [Outside, Document.rows, Document.cols, ← document.sheet.set_eq_error_iff _ _ text]
  cases document.sheet.set cell.row cell.col text with
  | error other => rw [Except.map, Except.error.injEq, Except.error.injEq]
  | ok sheet =>
    constructor
    · intro h
      cases h
    · intro h
      cases h

theorem commit_result (text : String) : (document.commit text).2 =
    (document.sheet.set document.selection.row document.selection.col text).map fun _ => () := by
  rw [commit]
  cases document.sheet.set document.selection.row document.selection.col text <;> rfl

theorem setCell_result (cell : CellRef) (text : String) : (document.setCell cell text).2 =
    (document.sheet.set cell.row cell.col text).map fun _ => () := by
  rw [setCell]
  cases document.sheet.set cell.row cell.col text <;> rfl

theorem commitAndAdvance_result (text : String) :
    (document.commitAndAdvance text).2 = (document.commit text).2 := by
  rw [commitAndAdvance]
  rcases document.commit text with ⟨next, cause | _⟩ <;> rfl

/-- **An operation fails if and only if it writes into a cell outside the grid.** -/
theorem apply_error_iff (op : Operation) (cause : SheetError) :
    (op.apply document).2 = .error cause ↔
      ∃ cell, target document op = some cell ∧ document.Outside cell cause := by
  have hsome : ∀ cell : CellRef, document.Outside cell cause ↔
      ∃ other, some cell = some other ∧ document.Outside other cause :=
    fun cell => by simp only [Option.some.injEq, exists_eq_left']
  have hnone : (Except.ok () : Except SheetError Unit) = .error cause ↔
      ∃ cell, none = some cell ∧ document.Outside cell cause :=
    ⟨fun h => (nomatch h), fun ⟨_, e, _⟩ => (nomatch e)⟩
  have hcommit : ∀ text, (document.commit text).2 = .error cause ↔
      ∃ cell, some document.selection = some cell ∧ document.Outside cell cause := fun text => by
    rw [commit_result]
    exact (document.set_error_iff _ text cause).trans (hsome _)
  have hsetCell : ∀ cell text, (document.setCell cell text).2 = .error cause ↔
      ∃ other, some cell = some other ∧ document.Outside other cause := fun cell text => by
    rw [setCell_result]
    exact (document.set_error_iff cell text cause).trans (hsome cell)
  cases op with
  | commit text => exact hcommit text
  | commitAndAdvance text =>
    show (document.commitAndAdvance text).2 = .error cause ↔ _
    rw [commitAndAdvance_result]
    exact hcommit text
  | barInput text => exact hcommit text
  | blur =>
    show document.blur.2 = .error cause ↔ _
    unfold blur target
    split
    · rw [commit_result]
      exact (document.set_error_iff _ document.buffer cause).trans (hsome _)
    · exact hnone
  | setCell cell text => exact hsetCell cell text
  | clearCell cell => exact hsetCell cell ""
  | _ => exact hnone

/-! ## what a failed operation leaves -/

/-- **A failed operation leaves the document**, but for the draft of a failed `blur`. -/
theorem apply_of_error (op : Operation) (cause : SheetError) (h : (op.apply document).2 = .error cause) :
    (op.apply document).1 = if op = .blur then { document with buffer := "" } else document := by
  cases op with
  | commit text => exact keeps_commit document text cause h
  | commitAndAdvance text => exact keeps_commitAndAdvance document text cause h
  | barInput text => exact keeps_commit document text cause h
  | blur =>
    have he : document.editing = true := by
      by_contra he
      have hresult : document.blur.2 = .ok () := by rw [blur, if_neg he]
      cases hresult.symm.trans h
    have hblur : document.blur = commit { document with buffer := "" } document.buffer := if_pos he
    have hresult : (commit { document with buffer := "" } document.buffer).2 = .error cause := hblur ▸ h
    show document.blur.1 = _
    rw [hblur, keeps_commit _ _ cause hresult, if_pos rfl]
  | setCell cell text => exact keeps_setCell document cell text cause h
  | clearCell cell => exact keeps_setCell document cell "" cause h
  | _ => cases h

theorem eq_dropped_draft_iff : { document with buffer := "" } = document ↔ document.buffer = "" := by
  constructor
  · intro h
    exact (congrArg Document.buffer h).symm
  · intro h
    rw [← h]

/-! ## the size of the grid -/

def SameSize (next : Document) : Prop := next.rows = document.rows ∧ next.cols = document.cols

theorem SameSize.trans {document next last : Document} (h : document.SameSize next) (h' : next.SameSize last) :
    document.SameSize last := ⟨h'.1.trans h.1, h'.2.trans h.2⟩

theorem sameSize_commit (text : String) : document.SameSize (document.commit text).1 := by
  unfold commit
  split
  · exact ⟨rfl, rfl⟩
  · next sheet hset =>
    obtain ⟨_, hrows, hcols, _⟩ := document.sheet.set_ok _ _ text sheet hset
    exact ⟨hrows, hcols⟩

theorem sameSize_setCell (cell : CellRef) (text : String) : document.SameSize (document.setCell cell text).1 := by
  unfold setCell
  split
  · exact ⟨rfl, rfl⟩
  · next sheet hset =>
    obtain ⟨_, hrows, hcols, _⟩ := document.sheet.set_ok _ _ text sheet hset
    exact ⟨hrows, hcols⟩

theorem sameSize_move (rows cols : Int) : document.SameSize (document.move rows cols).1 := by
  unfold move
  split <;> exact ⟨rfl, rfl⟩

theorem sameSize_commitAndAdvance (text : String) : document.SameSize (document.commitAndAdvance text).1 := by
  have hcommit := document.sameSize_commit text
  unfold commitAndAdvance
  split
  · next next cause hresult =>
    rw [hresult] at hcommit
    exact hcommit
  · next next hresult =>
    rw [hresult] at hcommit
    exact hcommit.trans (next.sameSize_move 0 1)

/-- **No operation changes the size of the grid**, in any document. -/
theorem sameSize_after (op : Operation) : document.SameSize (after document op) := by
  cases op with
  | select row col =>
    show document.SameSize (document.select row col)
    rw [select]
    split <;> exact ⟨rfl, rfl⟩
  | setBuffer text =>
    show document.SameSize (document.setBuffer text)
    rw [setBuffer]
    split <;> exact ⟨rfl, rfl⟩
  | commit text => exact document.sameSize_commit text
  | commitAndAdvance text => exact document.sameSize_commitAndAdvance text
  | blur =>
    show document.SameSize document.blur.1
    rw [blur]
    split
    · exact sameSize_commit { document with buffer := "" } document.buffer
    · exact ⟨rfl, rfl⟩
  | move rows cols => exact document.sameSize_move rows cols
  | barInput text => exact document.sameSize_commit text
  | setCell cell text => exact document.sameSize_setCell cell text
  | clearCell cell => exact document.sameSize_setCell cell ""
  | _ => exact ⟨rfl, rfl⟩

theorem sameSize_run (ops : List Operation) : document.SameSize (run document ops) := by
  induction ops using List.reverseRecOn with
  | nil => exact ⟨rfl, rfl⟩
  | append_singleton ops op ih =>
    rw [run_concat]
    exact ih.trans ((run document ops).sameSize_after op)

/-! ## failures after a run -/

/-- the grid has no cells -/
def NoCells : Prop := document.rows = 0 ∨ document.cols = 0

/-- the operations that fail: with no cells there is none to write the selected one's text into -/
def Fails : Operation → Prop
  | .commit _ => document.NoCells
  | .commitAndAdvance _ => document.NoCells
  | .barInput _ => document.NoCells
  | .blur => document.editing = true ∧ document.NoCells
  | .setCell cell _ => ¬ document.sheet.contains cell.row cell.col
  | .clearCell cell => ¬ document.sheet.contains cell.row cell.col
  | _ => False

theorem not_contains_of_noCells (h : document.NoCells) (row col : Nat) :
    ¬ document.sheet.contains row col := by
  rw [Sheet.contains_iff]
  rintro ⟨hrow, hcol⟩
  rcases h with h | h
  · exact Nat.not_lt_zero row (h ▸ hrow)
  · exact Nat.not_lt_zero col (h ▸ hcol)

end

theorem Made.constructed_or_noCells {start : Document} (h : Made start) :
    (∃ rows cols clickToEdit, Constructed rows cols clickToEdit start) ∨ start.NoCells := by
  cases h with
  | @new rows cols clickToEdit _ hnew =>
    by_cases hcells : 0 < rows ∧ 0 < cols
    · exact .inl ⟨rows, cols, clickToEdit, .new hcells.1 hcells.2 hnew⟩
    · right
      obtain ⟨_, rfl⟩ := (new?_eq_ok_iff _ _ _ _).mp hnew
      show rows = 0 ∨ cols = 0
      omega
  | @ofSettings settings _ h => exact .inl ⟨settings.rows, settings.cols, settings.clickToEdit, .ofSettings h⟩
  | default => exact .inl ⟨10, 5, .reclick, .default⟩

section
variable {start : Document} (h : Made start) (ops : List Operation)
include h

/-- after a run the selected cell lies outside the grid only if there are no cells -/
theorem selected_outside_iff : ¬ (run start ops).sheet.contains (run start ops).selection.row
    (run start ops).selection.col ↔ (run start ops).NoCells := by
  refine ⟨fun hout => ?_, fun hno => (run start ops).not_contains_of_noCells hno _ _⟩
  obtain ⟨rows, cols, clickToEdit, hstart⟩ | hno := h.constructed_or_noCells
  · exact absurd (consistent_run hstart.consistent ops).selected hout
  · obtain ⟨hrows, hcols⟩ := start.sameSize_run ops
    rw [NoCells, hrows, hcols]
    exact hno

/-- **The operations that fail after a run.** -/
theorem exists_error_iff (op : Operation) :
    (∃ cause, (op.apply (run start ops)).2 = .error cause) ↔ (run start ops).Fails op := by
  have htarget : (∃ cause, (op.apply (run start ops)).2 = .error cause) ↔
      ∃ cell, target (run start ops) op = some cell ∧ ¬ (run start ops).sheet.contains cell.row cell.col := by
    simp only [apply_error_iff, Outside]
    exact ⟨fun ⟨_, cell, htarget, hout, _⟩ => ⟨cell, htarget, hout⟩,
      fun ⟨cell, htarget, hout⟩ => ⟨_, cell, htarget, hout, rfl⟩⟩
  have hsome : ∀ cell : CellRef, (∃ other, some cell = some other ∧
      ¬ (run start ops).sheet.contains other.row other.col) ↔ ¬ (run start ops).sheet.contains cell.row cell.col :=
    fun cell => by simp only [Option.some.injEq, exists_eq_left']
  have hselected := (hsome (run start ops).selection).trans (selected_outside_iff h ops)
  rw [htarget]
  cases op with
  | commit text => exact hselected
  | commitAndAdvance text => exact hselected
  | barInput text => exact hselected
  | blur =>
    rw [target, Fails]
    by_cases he : (run start ops).editing = true
    · rw [if_pos he]
      exact hselected.trans ⟨fun hno => ⟨he, hno⟩, fun hfails => hfails.2⟩
    · rw [if_neg he]
      exact ⟨fun ⟨_, e, _⟩ => (nomatch e), fun hfails => absurd hfails.1 he⟩
  | setCell cell text => exact hsome cell
  | clearCell cell => exact hsome cell
  | _ => exact ⟨fun ⟨_, e, _⟩ => (nomatch e), fun hfails => hfails.elim⟩

/-- **A failed operation keeps the document, unless it is a `blur` with a draft.** It fails after a run if it
writes the selected cell of a grid without cells, or a cell that it names and that is outside; then all stays
as it was, but that `blur` has dropped the draft. -/
theorem failed_operation_keeps_iff (op : Operation) :
    ((∃ cause, (op.apply (run start ops)).2 = .error cause) ↔ (run start ops).Fails op) ∧
    ∀ cause, (op.apply (run start ops)).2 = .error cause →
      ((op.apply (run start ops)).1 = run start ops ↔ (op = .blur → (run start ops).buffer = "")) ∧
      (op = .blur → (op.apply (run start ops)).1 = { run start ops with buffer := "" }) := by
  refine ⟨exists_error_iff h ops op, fun cause hfail => ?_⟩
  rw [apply_of_error _ op cause hfail]
  by_cases hop : op = .blur
  · rw [if_pos hop, eq_dropped_draft_iff]
    exact ⟨⟨fun hbuffer _ => hbuffer, fun hbuffer => hbuffer hop⟩, fun _ => rfl⟩
  · rw [if_neg hop]
    exact ⟨⟨fun _ hop' => absurd hop' hop, fun _ => rfl⟩, fun hop' => absurd hop' hop⟩

end

/-- a commit that fails in a grid without rows keeps the draft that was typed before it -/
theorem failed_commit_keeps_draft : Made (ofSheet (Sheet.blank 0 3) .reclick) ∧
    let document := run (ofSheet (Sheet.blank 0 3) .reclick) [.beginEdit 1 1, .setBuffer "draft"]
    document.buffer = "draft" ∧ (document.commit "text").2 = .error (.outOfBounds 0 1 0 3) ∧
      (document.commit "text").1 = document := by
  have hnew : Made (ofSheet (Sheet.blank 0 3) .reclick) := .new (show new? 0 3 .reclick = _ from rfl)
  have hfail : ((run (ofSheet (Sheet.blank 0 3) .reclick) [.beginEdit 1 1, .setBuffer "draft"]).commit "text").2 =
      .error (.outOfBounds 0 1 0 3) := rfl
  obtain ⟨hkeeps, _⟩ := (failed_operation_keeps_iff hnew _ (.commit "text")).2 _ hfail
  exact ⟨hnew, rfl, hfail, hkeeps.mpr fun e => nomatch e⟩

/-- **Not every failed operation keeps the document**: without cells there is nowhere to write the draft, and a
`blur` drops it while the editor stays open. -/
theorem failed_blur_drops_draft : ¬ ∀ start, Made start → ∀ ops (op : Operation) cause,
    (op.apply (run start ops)).2 = .error cause → (op.apply (run start ops)).1 = run start ops := by
  intro hkeeps
  have hdraft := hkeeps (ofSheet (Sheet.blank 0 0) .reclick)
    (.new (show new? 0 0 .reclick = _ from rfl)) [.beginEdit 0 0, .setBuffer "draft"] .blur (.outOfBounds 0 0 0 0) rfl
  have hbuffer : "" = "draft" := congrArg Document.buffer hdraft
  exact absurd hbuffer (by decide)

end FormulaGrid.Document
