import FormulaGrid.Command.Run

/-!
# Commands that fail

* `Document.Keeps`       a result that leaves the document as it was, if it is an error;
* `keeps_commit`, …      the operations that commands are made of;
* `Command.keeps_run`    every command on every document, also one without cells.
-/

namespace FormulaGrid

namespace Document

section
variable {ε α : Type} (document : Document)

/-- an error comes with the document as it was -/
def Keeps (result : Document × Except ε α) : Prop := ∀ cause, result.2 = .error cause → result.1 = document

theorem keeps_ok (next : Document) (value : α) : document.Keeps (next, (.ok value : Except ε α)) := fun _ h => nomatch h

theorem keeps_error (cause : ε) : document.Keeps (document, (.error cause : Except ε α)) := fun _ _ => rfl

theorem keeps_commit (text : String) : document.Keeps (document.commit text) := by
  unfold commit
  split
  · exact keeps_error _ _
  · exact keeps_ok _ _ _

theorem keeps_setCell (cell : CellRef) (text : String) : document.Keeps (document.setCell cell text) := by
  unfold setCell
  split
  · exact keeps_error _ _
  · exact keeps_ok _ _ _

/-- the move after the write cannot fail -/
theorem keeps_commitAndAdvance (text : String) : document.Keeps (document.commitAndAdvance text) := by
  have hcommit := keeps_commit document text
  unfold commitAndAdvance
  split
  · next next cause hresult =>
    rw [hresult] at hcommit
    obtain rfl : next = document := hcommit cause rfl
    exact keeps_error _ _
  · exact keeps_ok _ _ _

theorem keeps_silently (result : Document × Except SheetError Unit) (h : document.Keeps result) :
    document.Keeps (Command.silently result) := by
  obtain ⟨next, _ | _⟩ := result
  · next cause =>
    obtain rfl : next = document := h cause rfl
    exact keeps_error _ _
  · exact keeps_ok _ _ _

theorem keeps_answer (cell : CellRef) (text : Option String) :
    document.Keeps (Command.answer document cell text) := by
  cases text with
  | none => exact keeps_error _ _
  | some text => exact keeps_ok _ _ _

end

end Document

/-- **A command that fails leaves the document as it was.** -/
theorem Command.keeps_run (command : Command) (document : Document) : document.Keeps (command.run document) := by
  cases command with
  | set cell text => exact document.keeps_silently _ (document.keeps_setCell cell text)
  | get cell => exact document.keeps_answer cell _
  | raw cell => exact document.keeps_answer cell _
  | clear cell => exact document.keeps_silently _ (document.keeps_setCell cell "")
  | type text =>
    by_cases he : document.editing = true
    · rw [run, if_pos he]
      exact document.keeps_ok _ _
    · rw [run, if_neg he]
      exact document.keeps_error _
  | commit text => exact document.keeps_silently _ (document.keeps_commit _)
  | tab text => exact document.keeps_silently _ (document.keeps_commitAndAdvance _)
  | bar text => exact document.keeps_silently _ (document.keeps_commit text)
  | move rows cols =>
    by_cases he : document.editing = true
    · rw [run, Document.move, if_pos he]
      exact document.keeps_error _
    · rw [run, Document.move, if_neg he]
      exact document.keeps_ok _ _
  | _ => exact document.keeps_ok _ _

end FormulaGrid
