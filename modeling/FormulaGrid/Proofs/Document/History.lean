import FormulaGrid.Proofs.Document.Runs

/-!
# The history of a document

* `Opened`             the cell that a run opened last, the text it had then, and the operations since;
* `draft`              the text typed last, or the one that was there;
* `Writes`             the text that an operation writes after a run, and into which cell;
* `LastWritten`        the text that a run wrote last into a cell, empty if there was none;
* `Opened.editor`, `exists_opened`   an open editor is that of the cell opened last and holds its draft;
* `writes_iff`         the history of a run tells what an operation writes;
* `raw_run_iff`        each cell has the text written last into it;
* `history_decides_cells`   no write of a run is lost, invented or misdirected.

`Writes` and `LastWritten` say nothing of the editor's text: a draft is told from the clicks and the typing
in the run.
-/

namespace FormulaGrid.Document

/-! ## what a run has written -/

section
variable (start : Document)

/-- the cell that a run opened last, the text it had then, and the operations since -/
inductive Opened : List Operation → CellRef → String → List Operation → Prop where
  | now {past op cell text} : opened (run start past) op = some cell →
      (run start past).raw cell = some text → Opened (past ++ [op]) cell text []
  | before {past op cell text since} : Opened past cell text since → opened (run start past) op = none →
      Opened (past ++ [op]) cell text (since ++ [op])

/-- the text typed last, or the one that was there -/
def draft (original : String) (since : List Operation) : String :=
  (since.filterMap Operation.typed).getLast?.getD original

/-- the text that an operation writes after the operations `past`, and into which cell -/
inductive Writes (past : List Operation) : Operation → CellRef → String → Prop where
  | setCell (cell text) : start.sheet.contains cell.row cell.col → Writes past (.setCell cell text) cell text
  | clearCell (cell) : start.sheet.contains cell.row cell.col → Writes past (.clearCell cell) cell ""
  | commit (text) : Writes past (.commit text) (run start past).selection text
  | commitAndAdvance (text) : Writes past (.commitAndAdvance text) (run start past).selection text
  | barInput (text) : Writes past (.barInput text) (run start past).selection text
  | blur (cell original since) : (run start past).editing = true → Opened start past cell original since →
      Writes past .blur cell (draft original since)

/-- the text that a run wrote last into a cell, empty if it wrote none -/
inductive LastWritten (cell : CellRef) : List Operation → String → Prop where
  | never : LastWritten cell [] ""
  | now {past op text} : Writes start past op cell text → LastWritten cell (past ++ [op]) text
  | before {past op text} : LastWritten cell past text → (∀ other, ¬ Writes start past op cell other) →
      LastWritten cell (past ++ [op]) text

end

theorem draft_concat (original : String) (since : List Operation) (op : Operation) :
    draft original (since ++ [op]) = op.typed.getD (draft original since) := by
  rw [draft, List.filterMap_append, List.getLast?_append]
  cases htyped : op.typed with
  | none =>
    rw [List.filterMap_cons_none htyped, List.filterMap_nil, List.getLast?_nil, Option.none_or]
    rfl
  | some text =>
    rw [List.filterMap_cons_some htyped, List.filterMap_nil, List.getLast?_singleton]
    rfl

/-! ## the open editor -/

section
variable {rows cols : Nat} {clickToEdit : ClickToEdit} {start : Document}
variable (h : Constructed rows cols clickToEdit start)
include h

/-- **An open editor is that of the cell opened last, and holds what was typed since.** -/
theorem Opened.editor {past since : List Operation} {cell : CellRef} {original : String}
    (hopened : Opened start past cell original since) (he : (run start past).editing = true) :
    (run start past).selection = cell ∧ (run start past).buffer = draft original since := by
  -- the last operation opened the cell, or it kept an editor open that had been opened before
  induction hopened with
  | @now past op cell original hcell hraw =>
    rw [run_concat] at he ⊢
    obtain ⟨cell', text, hcell', hraw', hselection, hbuffer⟩ | ⟨hnone, _⟩ :=
      editing_after (consistent_run h.consistent past) op he
    · obtain rfl := Option.some.inj (hcell'.symm.trans hcell)
      obtain rfl := Option.some.inj (hraw'.symm.trans hraw)
      exact ⟨hselection, hbuffer⟩
    · cases hnone.symm.trans hcell
  | @before past op cell original since _ hnone ih =>
    rw [run_concat] at he ⊢
    obtain ⟨cell', _, hcell', _⟩ | ⟨_, he', hselection, hbuffer⟩ :=
      editing_after (consistent_run h.consistent past) op he
    · cases hnone.symm.trans hcell'
    · rw [hselection, hbuffer, draft_concat, (ih he').2]
      exact ⟨(ih he').1, rfl⟩

theorem exists_opened (past : List Operation) (he : (run start past).editing = true) :
    ∃ cell original since, Opened start past cell original since := by
  induction past using List.reverseRecOn with
  | nil =>
    obtain ⟨_, _, rfl⟩ := h.eq
    cases he
  | append_singleton past op ih =>
    rw [run_concat] at he
    obtain ⟨cell, text, hcell, hraw, _⟩ | ⟨hnone, he', _⟩ :=
      editing_after (consistent_run h.consistent past) op he
    · exact ⟨cell, text, [], .now hcell hraw⟩
    · obtain ⟨cell, original, since, hopened⟩ := ih he'
      exact ⟨cell, original, since ++ [op], .before hopened hnone⟩

/-! ## cells -/

theorem contains_run (ops : List Operation) (row col : Nat) :
    (run start ops).sheet.contains row col = start.sheet.contains row col := by
  have hstart := h.consistent
  have hrun := consistent_run hstart ops
  have hrows : (run start ops).sheet.rows = start.sheet.rows := hrun.rows_eq.trans hstart.rows_eq.symm
  have hcols : (run start ops).sheet.cols = start.sheet.cols := hrun.cols_eq.trans hstart.cols_eq.symm
  rw [Sheet.contains, Sheet.contains, hrows, hcols]

/-- **The history of a run tells what an operation writes.** -/
theorem writes_iff (past : List Operation) (op : Operation) (cell : CellRef) (text : String) :
    Writes start past op cell text ↔ written (run start past) op = some (cell, text) := by
  constructor
  · intro hwrites
    cases hwrites with
    | setCell _ _ hin => exact if_pos ((contains_run h past _ _).trans hin)
    | clearCell _ hin => exact if_pos ((contains_run h past _ _).trans hin)
    | commit => rfl
    | commitAndAdvance => rfl
    | barInput => rfl
    | blur _ original since he hopened =>
      obtain ⟨hcell, htext⟩ := hopened.editor h he
      rw [written, if_pos he, hcell, htext]
  · intro hwritten
    have hsame : ∀ {c t}, some (c, t) = some (cell, text) → c = cell ∧ t = text := fun e =>
      Prod.mk.inj (Option.some.inj e)
    cases op with
    | commit text' =>
      obtain ⟨rfl, rfl⟩ := hsame hwritten
      exact .commit _
    | commitAndAdvance text' =>
      obtain ⟨rfl, rfl⟩ := hsame hwritten
      exact .commitAndAdvance _
    | barInput text' =>
      obtain ⟨rfl, rfl⟩ := hsame hwritten
      exact .barInput _
    | blur =>
      obtain ⟨he, hsome⟩ := Option.ite_none_right_eq_some.mp hwritten
      obtain ⟨rfl, rfl⟩ := hsame hsome
      obtain ⟨cell, original, since, hopened⟩ := exists_opened h past he
      obtain ⟨hcell, htext⟩ := hopened.editor h he
      rw [hcell, htext]
      exact .blur cell original since he hopened
    | setCell cell' text' =>
      obtain ⟨hin, hsome⟩ := Option.ite_none_right_eq_some.mp hwritten
      obtain ⟨rfl, rfl⟩ := hsame hsome
      exact .setCell _ _ ((contains_run h past _ _).symm.trans hin)
    | clearCell cell' =>
      obtain ⟨hin, hsome⟩ := Option.ite_none_right_eq_some.mp hwritten
      obtain ⟨rfl, rfl⟩ := hsame hsome
      exact .clearCell _ ((contains_run h past _ _).symm.trans hin)
    | _ => cases hwritten

theorem raw_of_writes {past : List Operation} {op : Operation} {cell : CellRef} {text : String}
    (hwrites : Writes start past op cell text) (other : CellRef) :
    (after (run start past) op).raw other = if other = cell then some text else (run start past).raw other := by
  rw [raw_after (consistent_run h.consistent past), (writes_iff h past op cell text).mp hwrites]

/-- an operation that does not write into a cell leaves its text -/
theorem raw_of_not_writes {past : List Operation} {op : Operation} {cell : CellRef}
    (hno : ∀ text, ¬ Writes start past op cell text) :
    (after (run start past) op).raw cell = (run start past).raw cell := by
  rw [raw_after (consistent_run h.consistent past)]
  cases hwritten : written (run start past) op with
  | none => rfl
  | some write =>
    obtain ⟨target, text⟩ := write
    have hne : cell ≠ target := by
      rintro rfl
      exact hno text ((writes_iff h past op cell text).mpr hwritten)
    exact if_neg hne

/-- **Each cell has the text that was written last into it.** -/
theorem raw_run_iff (ops : List Operation) (cell : CellRef) (hcell : start.sheet.contains cell.row cell.col)
    (text : String) : (run start ops).raw cell = some text ↔ LastWritten start cell ops text := by
  have hblank : start.raw cell = some "" := by
    obtain ⟨_, _, rfl⟩ := h.eq
    exact Sheet.get?_blank cell.row cell.col rows cols hcell
  -- the last operation decides the text if it writes into the cell, and else the run before it does
  constructor
  · intro hraw
    induction ops using List.reverseRecOn generalizing text with
    | nil =>
      obtain rfl := Option.some.inj (hblank.symm.trans hraw)
      exact .never
    | append_singleton past op ih =>
      rw [run_concat] at hraw
      by_cases hwrites : ∃ text', Writes start past op cell text'
      · obtain ⟨text', hwrites⟩ := hwrites
        rw [raw_of_writes h hwrites, if_pos rfl] at hraw
        obtain rfl := Option.some.inj hraw
        exact .now hwrites
      · have hno := not_exists.mp hwrites
        rw [raw_of_not_writes h hno] at hraw
        exact .before (ih text hraw) hno
  · intro hlast
    induction hlast with
    | never => exact hblank
    | now hwrites => rw [run_concat, raw_of_writes h hwrites, if_pos rfl]
    | before _ hno ih => rw [run_concat, raw_of_not_writes h hno, ih]

/-- **No write is lost, invented or misdirected.** After every run each cell has exactly one text written last,
and that is its text; an operation changes the cell that the history says it writes into, and no other; one
that writes nothing changes no cell, and one that fails writes nothing. -/
theorem history_decides_cells (ops : List Operation) :
    (∀ cell, start.sheet.contains cell.row cell.col →
      ∃ text, (run start ops).raw cell = some text ∧ ∀ last, LastWritten start cell ops last ↔ last = text) ∧
    (∀ op cell text, Writes start ops op cell text → (after (run start ops) op).raw cell = some text ∧
      ∀ other, other ≠ cell → (after (run start ops) op).raw other = (run start ops).raw other) ∧
    (∀ op, (∀ cell text, ¬ Writes start ops op cell text) →
      ∀ cell, (after (run start ops) op).raw cell = (run start ops).raw cell) ∧
    (∀ op, (op.apply (run start ops)).2 ≠ .ok () → ∀ cell text, ¬ Writes start ops op cell text) := by
  refine ⟨fun cell hcell => ?_, fun op cell text hwrites => ⟨?_, fun other hne => ?_⟩,
    fun op hno cell => raw_of_not_writes h (hno cell), fun op hfail cell text hwrites => ?_⟩
  · obtain ⟨text, hraw⟩ := (run start ops).sheet.exists_get? _ _ ((contains_run h ops _ _).trans hcell)
    have hraw : (run start ops).raw cell = some text := hraw
    refine ⟨text, hraw, fun last => ?_⟩
    rw [← raw_run_iff h ops cell hcell last, hraw, Option.some.injEq]
    exact eq_comm
  · rw [raw_of_writes h hwrites, if_pos rfl]
  · rw [raw_of_writes h hwrites, if_neg hne]
  · have hnone := written_of_error (consistent_run h.consistent ops) op hfail
    cases hnone.symm.trans ((writes_iff h ops op cell text).mp hwrites)

end

/-- the open cell is overwritten, and the draft that was typed before goes over it when the focus leaves -/
theorem draft_over_direct_write :
    Constructed 2 2 .reclick (ofSheet (Sheet.blank 2 2) .reclick) ∧
      LastWritten (ofSheet (Sheet.blank 2 2) .reclick) ⟨1, 0⟩ [.beginEdit 5 0, .setBuffer "draft",
        .setCell ⟨1, 0⟩ "direct", .move (-1) 0, .setCell ⟨7, 7⟩ "outside", .blur] "draft" := by
  have hnew : Constructed 2 2 .reclick (ofSheet (Sheet.blank 2 2) .reclick) := .new (by decide) (by decide) rfl
  obtain ⟨text, hraw, hlast⟩ := (history_decides_cells hnew [.beginEdit 5 0, .setBuffer "draft",
    .setCell ⟨1, 0⟩ "direct", .move (-1) 0, .setCell ⟨7, 7⟩ "outside", .blur]).1 ⟨1, 0⟩ (by decide)
  have htext : "draft" = text := Option.some.inj (Eq.trans (by decide +kernel) hraw)
  exact ⟨hnew, (hlast "draft").mpr htext⟩

end FormulaGrid.Document
