import FormulaGrid.Command.Basic
import FormulaGrid.Document.Operation
import FormulaGrid.Document.Render

/-!
# Running commands

* `Outcome`            a text to print, nothing, or the wish to stop;
* `RunError`           why a command had no effect;
* `Command.helpText`   the summary of the commands;
* `Command.run`        the document after a command, and its outcome.
-/

namespace FormulaGrid

inductive Outcome where
  | output (text : String)
  | silent
  | quit
  deriving DecidableEq, Repr

inductive RunError where
  | sheet (cause : SheetError)
  | outside (cell : CellRef)
  | notEditing
  | movingWhileEditing
  deriving DecidableEq, Repr

def RunError.message : RunError → String
  | .sheet cause => cause.message
  | .outside cell => s!"{cell} is outside the sheet"
  | .notEditing => "not editing (use 'edit' first)"
  | .movingWhileEditing => "cannot move while editing (commit or cancel first)"

namespace Command

/-- the summary of the commands -/
def helpText : String := "\n".intercalate [
  "Commands:",
  "  set <REF> <text>     Write raw text into a cell",
  "  get <REF>            Print a cell's display value",
  "  raw <REF>            Print a cell's raw text",
  "  clear <REF>          Blank a cell",
  "  eval <text>          Evaluate text against the sheet without storing it",
  "  show                 Render the grid",
  "  list                 List non-blank cells",
  "  click <REF>          Click a cell (reclick edits, depending on policy)",
  "  dblclick <REF>       Open a cell for editing",
  "  edit                 Open the selected cell for editing (Enter)",
  "  type <text>          Replace the in-place editor text",
  "  commit [text]        Commit text (default: editor or formula bar) to the selection",
  "  tab [text]           Commit, then move one column right",
  "  cancel               Leave edit mode without committing (Escape)",
  "  bar <text>           Type into the formula bar",
  "  up|down|left|right   Move the selection",
  "  move <drow> <dcol>   Move the selection by an offset",
  "  status               Print selection, edit state and formula bar",
  "  help                 Show this help",
  "  quit                 Exit"]

/-- what a bare commit writes: the draft, or the text the cell has -/
def pendingText (document : Document) : String :=
  if document.editing then document.buffer else document.barText

/-- a line for each cell that is not blank: its name, its text and what it shows -/
def listing (document : Document) : String :=
  "\n".intercalate (document.sheet.nonBlank.map fun (cell, text) =>
    cell.name ++ "\t" ++ text ++ "\t" ++ document.displayValue cell.row cell.col)

/-- the selected cell, whether it is edited, and the formula bar -/
def statusLine (document : Document) : String :=
  document.statusLabel ++ (if document.editing then " (editing)" else "") ++ "\t" ++
    document.barText

/-- the result of an operation that prints nothing -/
def silently (result : Document × Except SheetError Unit) :
    Document × Except RunError Outcome :=
  match result with
  | (document, .ok ()) => (document, .ok .silent)
  | (document, .error cause) => (document, .error (.sheet cause))

/-- a text of a cell, or that there is no such cell -/
def answer (document : Document) (cell : CellRef) (text : Option String) :
    Document × Except RunError Outcome :=
  match text with
  | some text => (document, .ok (.output text))
  | none => (document, .error (.outside cell))

/-- the document after a command, and its outcome -/
def run (command : Command) (document : Document) : Document × Except RunError Outcome :=
  match command with
  | .set cell text => silently (document.setCell cell text)
  | .get cell => answer document cell ((document.evaluateCell cell).map Evaluation.shown)
  | .raw cell => answer document cell (document.raw cell)
  | .clear cell => silently (document.clearCell cell)
  | .eval text => (document, .ok (.output (Formula.evaluate document.sheet.source text).shown))
  | .show => (document, .ok (.output document.render))
  | .list => (document, .ok (.output (listing document)))
  | .click cell => (document.select cell.row cell.col, .ok .silent)
  | .doubleClick cell => (document.beginEdit cell.row cell.col, .ok .silent)
  | .edit => (if document.editing then document else document.beginEditSelected, .ok .silent)
  | .type text =>
    if document.editing then (document.setBuffer text, .ok .silent)
    else (document, .error .notEditing)
  | .commit text => silently (document.commit (text.getD (pendingText document)))
  | .tab text => silently (document.commitAndAdvance (text.getD (pendingText document)))
  | .cancel => (document.cancel, .ok .silent)
  | .bar text => silently (document.barInput text)
  | .move rows cols =>
    match document.move rows cols with
    | (document, true) => (document, .ok .silent)
    | (document, false) => (document, .error .movingWhileEditing)
  | .status => (document, .ok (.output (statusLine document)))
  | .help => (document, .ok (.output helpText))
  | .quit => (document, .ok .quit)

end Command

end FormulaGrid
