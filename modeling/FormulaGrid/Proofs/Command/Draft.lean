import FormulaGrid.Command.Run
import FormulaGrid.Proofs.Document.Runs
import FormulaGrid.Proofs.Number.Whole
import FormulaGrid.Proofs.Sheet.Listing

/-!
# Drafts

* `afterLine`, `afterLines`   a document after a line, which may be no command or fail, and after a list of them;
* `lineName`, `endings`   the name of a command that a line begins with, and the names of those that end an edit;
* `operations`, `run_fst`   the operations that a command is made of;
* `Opens`              the commands that open a cell for editing: `Opens.editing`;
* `Editing`            an editor that is open on a cell, with a draft: `Editing.run`, `Editing.afterLines`, and
                       `Editing.commit`, which ends the edit;
* `run_commit_none`, `run_tab_none`   while nothing is edited, a bare commit writes what is there;
* `draft_survives`     only the commands that are meant to end an edit do.
-/

namespace FormulaGrid.Command

open Document

/-! ## lines -/

/-- the document after a line; one that is no command leaves it -/
def afterLine (document : Document) (line : String) : Document :=
  match parse line with
  | .ok command => (command.run document).1
  | .error _ => document

def afterLines (document : Document) (lines : List String) : Document := lines.foldl afterLine document

theorem afterLine_of_parse (document : Document) {line : String} {command : Command}
    (h : parse line = .ok command) : afterLine document line = (command.run document).1 := by
  rw [afterLine, h]

/-- the name that a line begins with, in small letters -/
def lineName (line : String) : String := String.ofList ((Text.splitWord line.toList).1.map Char.toLower)

/-- the names of the commands that are meant to end an edit -/
def endings : List String := ["click", "dblclick", "commit", "tab", "cancel", "bar"]

/-- the commands that are not meant to end an edit -/
def keepsEditor : Command → Bool
  | .click _ => false
  | .doubleClick _ => false
  | .commit _ => false
  | .tab _ => false
  | .cancel => false
  | .bar _ => false
  | _ => true

theorem keeps_of_parseMove (rest : List Char) (command : Command) (h : parseMove rest = .ok command) :
    command.keepsEditor = true := by
  unfold parseMove at h
  simp only at h
  split at h
  · cases h
  · split at h
    · cases h
    · obtain rfl := Except.ok.inj h
      rfl

/-- **Only the commands that are meant to end an edit have the names of these.** -/
theorem ending_or_keeps (name : String) (rest : List Char) (command : Command)
    (h : ofName name rest = .ok command) : name ∈ endings ∨ command.keepsEditor = true := by
  have hread : ∀ other : Command, Except.ok (ε := CommandError) other = .ok command →
      other.keepsEditor = true → command.keepsEditor = true := by
    rintro other ⟨⟩ hother
    exact hother
  have hcell : ∀ (result : Except CommandError CellRef) (make : CellRef → Command),
      result.map make = .ok command → (∀ cell, (make cell).keepsEditor = true) → command.keepsEditor = true := by
    intro result make hmake hkeeps
    obtain ⟨cell, _, rfl⟩ := Number.exists_of_map_ok _ _ _ hmake
    exact hkeeps cell
  unfold ofName at h
  -- one case for each name: it ends an edit, it has one command, it takes a cell, or it takes two offsets
  split at h
  all_goals first
    | exact .inl (by decide)
    | exact .inr (hread _ h rfl)
    | exact .inr (hcell _ _ h fun _ => rfl)
    | exact .inr (keeps_of_parseMove rest command h)
    | cases h

theorem keeps_of_parse (line : String) (hname : lineName line ∉ endings) (command : Command)
    (h : parse line = .ok command) : command.keepsEditor = true :=
  (ending_or_keeps (lineName line) _ command h).resolve_left hname

/-! ## commands as operations -/

/-- the operations that a command is made of, none if it only looks at the document -/
def operations (document : Document) : Command → List Operation
  | .set cell text => [.setCell cell text]
  | .clear cell => [.clearCell cell]
  | .click cell => [.select cell.row cell.col]
  | .doubleClick cell => [.beginEdit cell.row cell.col]
  | .edit => if document.editing then [] else [.beginEditSelected]
  | .type text => [.setBuffer text]
  | .commit text => [.commit (text.getD (pendingText document))]
  | .tab text => [.commitAndAdvance (text.getD (pendingText document))]
  | .cancel => [.cancel]
  | .bar text => [.barInput text]
  | .move rows cols => [.move rows cols]
  | _ => []

theorem silently_fst (result : Document × Except SheetError Unit) : (silently result).1 = result.1 := by
  obtain ⟨next, _ | _⟩ := result <;> rfl

theorem answer_fst (document : Document) (cell : CellRef) (text : Option String) :
    (answer document cell text).1 = document := by
  cases text <;> rfl

/-- **A command is a run of operations.** -/
theorem run_fst (command : Command) (document : Document) :
    (command.run document).1 = Document.run document (command.operations document) := by
  cases command with
  | set cell text => exact silently_fst _
  | get cell => exact answer_fst _ _ _
  | raw cell => exact answer_fst _ _ _
  | clear cell => exact silently_fst _
  | edit =>
    rw [run, operations]
    split <;> rfl
  | type text =>
    show _ = document.setBuffer text
    by_cases he : document.editing = true
    · rw [run, if_pos he]
    · rw [run, if_neg he, setBuffer, if_neg he]
  | commit text => exact silently_fst _
  | tab text => exact silently_fst _
  | bar text => exact silently_fst _
  | move rows cols =>
    show _ = (document.move rows cols).1
    rw [run]
    obtain ⟨next, _ | _⟩ := document.move rows cols <;> rfl
  | _ => rfl

/-! ## an open editor -/

/-- the editor is open on the cell and holds the draft -/
structure Editing (cell : CellRef) (draft : String) (document : Document) : Prop where
  editing : document.editing = true
  selection : document.selection = cell
  buffer : document.buffer = draft

/-- the commands that open a cell, and which one; the nearest cell of the grid is clicked -/
inductive Opens (document : Document) : Command → CellRef → Prop where
  | edit : document.editing = false → Opens document .edit document.selection
  | doubleClick (cell : CellRef) : Opens document (.doubleClick cell) (document.clamp cell.row cell.col)
  | click (cell : CellRef) : document.editing = false → document.clickToEdit = .reclick →
      document.clamp cell.row cell.col = document.selection → Opens document (.click cell) document.selection

/-- the text that a command puts into an open editor -/
def typed : Command → Option String
  | .type text => some text
  | _ => none

/-- the text that a line puts into an open editor -/
def typedLine (line : String) : Option String :=
  match parse line with
  | .ok command => command.typed
  | .error _ => none

/-- the text that was typed last, or the one that was there -/
def lastTyped (original : String) (lines : List String) : String :=
  (lines.filterMap typedLine).getLast?.getD original

theorem lastTyped_cons (original line : String) (lines : List String) :
    lastTyped original (line :: lines) = lastTyped ((typedLine line).getD original) lines := by
  rw [lastTyped, lastTyped]
  cases htyped : typedLine line with
  | none =>
    rw [List.filterMap_cons_none htyped]
    rfl
  | some text =>
    rw [List.filterMap_cons_some htyped, List.getLast?_cons]
    rfl

theorem Opens.opened {document : Document} {command : Command} {cell : CellRef}
    (h : Opens document command cell) :
    ∃ op, command.operations document = [op] ∧ Document.opened document op = some cell := by
  cases h with
  | edit he =>
    refine ⟨.beginEditSelected, ?_, rfl⟩
    rw [operations, if_neg (Bool.eq_false_iff.mp he)]
  | doubleClick cell => exact ⟨.beginEdit cell.row cell.col, rfl, rfl⟩
  | click cell he hpolicy hcell =>
    refine ⟨.select cell.row cell.col, rfl, ?_⟩
    show (if _ then some (document.clamp cell.row cell.col) else none) = _
    rw [hcell, if_pos ⟨rfl, by rw [he]; rfl, hpolicy⟩]

section
variable {rows cols : Nat} {clickToEdit : ClickToEdit} {document : Document}
variable {cell : CellRef} {draft : String}

/-- **A command that opens a cell has its text as the draft.** -/
theorem Opens.editing (h : Consistent rows cols clickToEdit document) {command : Command}
    (hopens : Opens document command cell) :
    ∃ text, document.raw cell = some text ∧ Editing cell text (command.run document).1 := by
  obtain ⟨op, hop, hopened⟩ := hopens.opened
  rw [run_fst, hop]
  show ∃ text, _ ∧ Editing cell text (op.apply document).1
  have hstep := step_apply h op
  generalize op.apply document = next at hstep
  cases hstep with
  | opens cell' text hcell' _ hraw =>
    obtain rfl := Option.some.inj (hcell'.symm.trans hopened)
    exact ⟨text, hraw, rfl, rfl, rfl⟩
  | commits _ _ _ hnone => cases hnone.symm.trans hopened
  | writes _ _ _ hnone => cases hnone.symm.trans hopened
  | leaves _ hnone => cases hnone.symm.trans hopened
  | types _ hnone => cases hnone.symm.trans hopened
  | stays _ hnone => cases hnone.symm.trans hopened

theorem Editing.setCell (h : Editing cell draft document) (target : CellRef) (text : String) :
    Editing cell draft (document.setCell target text).1 := by
  unfold Document.setCell
  split
  · exact h
  · exact ⟨h.editing, h.selection, h.buffer⟩

theorem Editing.setBuffer (h : Editing cell draft document) (text : String) :
    Editing cell text (document.setBuffer text) := by
  rw [Document.setBuffer, if_pos h.editing]
  exact ⟨h.editing, h.selection, rfl⟩

theorem Editing.move (h : Editing cell draft document) (rows cols : Int) :
    Editing cell draft (document.move rows cols).1 := by
  rw [Document.move, if_pos h.editing]
  exact h

/-- **A command that is not meant to end the edit keeps it open**, on the same cell, and only typing changes the
draft. -/
theorem Editing.run (h : Editing cell draft document) (command : Command) (hkeeps : command.keepsEditor = true) :
    Editing cell (command.typed.getD draft) (command.run document).1 := by
  rw [run_fst]
  cases command with
  | set target text => exact h.setCell target text
  | clear target => exact h.setCell target ""
  | edit =>
    rw [operations, if_pos h.editing]
    exact h
  | type text => exact h.setBuffer text
  | move rows cols => exact h.move rows cols
  | click => cases hkeeps
  | doubleClick => cases hkeeps
  | commit => cases hkeeps
  | tab => cases hkeeps
  | cancel => cases hkeeps
  | bar => cases hkeeps
  | _ => exact h

theorem Editing.afterLine (h : Editing cell draft document) (line : String) (hname : lineName line ∉ endings) :
    Editing cell ((typedLine line).getD draft) (afterLine document line) := by
  unfold Command.afterLine typedLine
  cases hparse : parse line with
  | ok command => exact h.run command (keeps_of_parse line hname command hparse)
  | error _ => exact h

/-- **Any lines with other names keep the edit open**, with the text that was typed last. -/
theorem Editing.afterLines (h : Editing cell draft document) (lines : List String)
    (hnames : ∀ line ∈ lines, lineName line ∉ endings) :
    Editing cell (lastTyped draft lines) (afterLines document lines) := by
  induction lines generalizing document draft with
  | nil => exact h
  | cons line lines ih =>
    obtain ⟨hname, hnames⟩ := List.forall_mem_cons.mp hnames
    rw [lastTyped_cons]
    exact ih (h.afterLine line hname) hnames

/-! ## bare commits -/

theorem consistent_afterLine (h : Consistent rows cols clickToEdit document) (line : String) :
    Consistent rows cols clickToEdit (Command.afterLine document line) := by
  unfold Command.afterLine
  split
  · rw [run_fst]
    exact consistent_run h _
  · exact h

theorem consistent_afterLines (h : Consistent rows cols clickToEdit document) (lines : List String) :
    Consistent rows cols clickToEdit (Command.afterLines document lines) := by
  induction lines generalizing document with
  | nil => exact h
  | cons line lines ih => exact ih (consistent_afterLine h line)

/-- **A bare commit writes the draft** into the open cell and closes the editor. -/
theorem Editing.commit (h : Consistent rows cols clickToEdit document) (he : Editing cell draft document) :
    ((Command.commit none).run document).1.editing = false ∧
      ∀ other, ((Command.commit none).run document).1.raw other =
        if other = cell then some draft else document.raw other := by
  have hpending : pendingText document = draft := by rw [pendingText, if_pos he.editing, he.buffer]
  obtain ⟨sheet, _, hcommit⟩ := exists_commit h draft
  have hrun : (Command.commit none).run document =
      (⟨sheet, document.selection, false, "", document.clickToEdit⟩, .ok .silent) := by
    show silently (document.commit (pendingText document)) = _
    rw [hpending, hcommit]
    rfl
  have hafter : after document (.commit draft) = ((Command.commit none).run document).1 := by
    show (document.commit draft).1 = _
    rw [hrun, hcommit]
  refine ⟨by rw [hrun], fun other => ?_⟩
  rw [← hafter, raw_after h (.commit draft) other, ← he.selection]
  rfl

section
variable (h : Consistent rows cols clickToEdit document) (he : document.editing = false)
include h he

theorem commit_barText : document.commit document.barText = (document, .ok ()) := by
  obtain ⟨sheet, hset, hcommit⟩ := exists_commit h document.barText
  obtain ⟨text, hraw⟩ := document.sheet.exists_get? _ _ h.selected
  have hbar : document.barText = text := by rw [barText, Document.raw, hraw, Option.getD_some]
  obtain ⟨_, hrows, hcols, hget⟩ := document.sheet.set_ok _ _ _ sheet hset
  have hsheet : sheet = document.sheet := by
    refine sheet.ext_get? document.sheet hrows hcols fun row col => ?_
    rw [hget, hbar]
    split
    · next hcell =>
      obtain ⟨rfl, rfl⟩ := hcell
      exact hraw.symm
    · rfl
  rw [hcommit, hsheet, Prod.mk.injEq, Document.mk.injEq]
  exact ⟨⟨rfl, rfl, he.symm, (h.buffer_eq he).symm, rfl⟩, rfl⟩

/-- **While nothing is edited a bare commit changes nothing.** -/
theorem run_commit_none : (Command.commit none).run document = (document, .ok .silent) := by
  have hpending : pendingText document = document.barText := if_neg (Bool.eq_false_iff.mp he)
  show silently (document.commit (pendingText document)) = _
  rw [hpending, commit_barText h he]
  rfl

/-- **While nothing is edited a bare tab only moves the selection**, one column to the right. -/
theorem run_tab_none : (Command.tab none).run document =
    ({ document with selection := document.clamp document.selection.row (document.selection.col + 1) },
      .ok .silent) := by
  have hclosed : ¬ document.editing = true := Bool.eq_false_iff.mp he
  have hpending : pendingText document = document.barText := if_neg hclosed
  show silently (document.commitAndAdvance (pendingText document)) = _
  rw [hpending, commitAndAdvance, commit_barText h he]
  show silently ((document.move 0 1).1, .ok ()) = _
  rw [Document.move, if_neg hclosed, Int.add_zero]
  rfl

end

end

/-- **A draft survives everything but the commands that are meant to end it.** After any run of a new document,
and a line that opens a cell, all lines with other names leave the editor open on that cell, whether they fail or
not. A bare commit then writes the text that was typed last, or the one that the cell had when it was opened, and
touches no other cell. While nothing is edited, a bare commit changes nothing, and a bare tab nothing but the
selection. -/
theorem draft_survives {rows cols : Nat} {clickToEdit : ClickToEdit} {start : Document}
    (h : Constructed rows cols clickToEdit start) (ops : List Operation) :
    let document := Document.run start ops
    (∀ first command cell, parse first = .ok command → Opens document command cell →
      ∃ original, document.raw cell = some original ∧
        ∀ lines, (∀ line ∈ lines, lineName line ∉ endings) →
          let edited := afterLines (afterLine document first) lines
          edited.editing = true ∧ edited.selection = cell ∧
          ∀ last, parse last = .ok (.commit none) →
            let committed := afterLine edited last
            committed.editing = false ∧ committed.raw cell = some (lastTyped original lines) ∧
              ∀ other, other ≠ cell → committed.raw other = edited.raw other) ∧
    (document.editing = false →
      (∀ line, parse line = .ok (.commit none) → afterLine document line = document) ∧
      (∀ line, parse line = .ok (.tab none) →
        ∃ cell, afterLine document line = { document with selection := cell })) := by
  intro document
  have hrun : Consistent rows cols clickToEdit document := consistent_run h.consistent ops
  constructor
  · intro first command cell hfirst hopens
    obtain ⟨original, hraw, hopened⟩ := hopens.editing hrun
    rw [← afterLine_of_parse document hfirst] at hopened
    refine ⟨original, hraw, fun lines hnames => ?_⟩
    intro edited
    have hedited : Editing cell (lastTyped original lines) edited := hopened.afterLines lines hnames
    refine ⟨hedited.editing, hedited.selection, fun last hlast => ?_⟩
    -- the open cell lies in the grid still, and so the commit cannot fail
    have hconsistent : Consistent rows cols clickToEdit edited :=
      consistent_afterLines (consistent_afterLine hrun first) lines
    obtain ⟨hclosed, hcommitted⟩ := hedited.commit hconsistent
    rw [← afterLine_of_parse edited hlast] at hclosed hcommitted
    refine ⟨hclosed, ?_, fun other hother => ?_⟩
    · rw [hcommitted, if_pos rfl]
    · rw [hcommitted, if_neg hother]
  · intro he
    refine ⟨fun line hline => ?_, fun line hline => ?_⟩
    · rw [afterLine_of_parse document hline, run_commit_none hrun he]
    · exact ⟨_, by rw [afterLine_of_parse document hline, run_tab_none hrun he]⟩

/-- the open cell is written directly, the draft is emptied, and other lines fail on the way -/
theorem empty_draft_survives :
    let start := ofSheet (Sheet.blank 2 2) .reclick
    let lines := ["type =1+", "set B2 direct", "move 1 0", "type", "down", "get Z99", "write", ""]
    let edited := afterLines (afterLine (Document.run start [.select 1 1]) "click B2") lines
    edited.editing = true ∧ edited.selection = ⟨1, 1⟩ ∧ edited.raw ⟨1, 1⟩ = some "direct" ∧
      (afterLine edited "commit").raw ⟨1, 1⟩ = some "" := by
  intro start lines edited
  have hnew : Constructed 2 2 .reclick start := .new (by decide) (by decide) rfl
  have hfirst : parse "click B2" = .ok (.click ⟨1, 1⟩) := by decide +kernel
  obtain ⟨original, _, hlines⟩ := (draft_survives hnew [.select 1 1]).1 _ _ _ hfirst (.click ⟨1, 1⟩ rfl rfl rfl)
  obtain ⟨hediting, hselection, hcommit⟩ := hlines lines (by decide +kernel)
  have htyped : lastTyped original lines = "" := by
    have htexts : lines.filterMap typedLine = ["=1+", ""] := by decide +kernel
    rw [lastTyped, htexts]
    rfl
  refine ⟨hediting, hselection, by decide +kernel, ?_⟩
  have hlast : parse "commit" = .ok (.commit none) := by decide +kernel
  rw [← htyped]
  exact (hcommit "commit" hlast).2.1

end FormulaGrid.Command
