import FormulaGrid.Session.Script
import FormulaGrid.Proofs.Command.Failure

/-!
# Scripts without their failing lines

* `Ending.output`, `Ending.errors`   the lines that a script prints on either side;
* `lineFails`, `reducedScript`   a line that fails on a document, and a script without the lines that are skipped
                          or fail while it runs;
* `runLine_of_idle`       a line that is skipped or fails leaves the document and prints no output;
* `runScript_cons`        a script is its first line and a script on what that leaves;
* `runScript_reducedScript`   only the errors tell a script from its reduced one.
-/

namespace FormulaGrid

/-! ## what is printed -/

def Event.out? : Event → Option String
  | .out line => some line
  | .err _ => none

def Event.err? : Event → Option String
  | .out _ => none
  | .err line => some line

/-- the lines for the standard output -/
def Ending.output (ending : Ending) : List String := ending.events.filterMap Event.out?

/-- the lines for the standard error -/
def Ending.errors (ending : Ending) : List String := ending.events.filterMap Event.err?

/-! ## reduced scripts -/

/-- a line that is no command, or one that fails on the document -/
def lineFails (document : Document) (line : String) : Bool :=
  match Command.parse line with
  | .error _ => true
  | .ok command =>
    match (command.run document).2 with
    | .error _ => true
    | .ok _ => false

/-- a script without the lines that are skipped, and without those that fail while it runs from the document;
a line behind the one that ends the script does not run, and so does not fail -/
def reducedScript (document : Document) : List String → List String
  | [] => []
  | line :: lines =>
    let kept := if isSkipped line || lineFails document line then [] else [line]
    match runLine document line with
    | (next, _, true) => kept ++ reducedScript next lines
    | (_, _, false) => kept ++ lines.filter (!isSkipped ·)

/-! ## single lines -/

section
variable (document : Document) (line : String)

/-- **A line that is skipped or fails leaves the document as it was**, and prints at most an error. -/
theorem runLine_of_idle (h : (isSkipped line || lineFails document line) = true) :
    ∃ events, runLine document line = (document, events, true) ∧ events.filterMap Event.out? = [] := by
  unfold runLine
  by_cases hskipped : isSkipped line = true
  · rw [if_pos hskipped]
    exact ⟨[], rfl, rfl⟩
  · rw [if_neg hskipped]
    rw [Bool.eq_false_iff.mpr hskipped, Bool.false_or, lineFails] at h
    cases hparse : Command.parse line with
    | error cause => exact ⟨_, rfl, rfl⟩
    | ok command =>
      have hkeeps := command.keeps_run document
      rw [hparse] at h
      dsimp only at h ⊢
      generalize command.run document = result at hkeeps h
      obtain ⟨next, outcome⟩ := result
      cases outcome with
      | error cause =>
        obtain rfl : next = document := hkeeps cause rfl
        exact ⟨_, rfl, rfl⟩
      | ok outcome => cases h

/-- a line that is run and does not fail prints no error -/
theorem runLine_of_runs (h : (isSkipped line || lineFails document line) = false) :
    (runLine document line).2.1.filterMap Event.err? = [] := by
  obtain ⟨hskipped, hfails⟩ := Bool.or_eq_false_iff.mp h
  rw [runLine, if_neg (Bool.eq_false_iff.mp hskipped)]
  rw [lineFails] at hfails
  cases hparse : Command.parse line with
  | error cause =>
    rw [hparse] at hfails
    cases hfails
  | ok command =>
    rw [hparse] at hfails
    dsimp only at hfails ⊢
    generalize command.run document = result at hfails
    obtain ⟨next, outcome⟩ := result
    cases outcome with
    | error cause => cases hfails
    | ok outcome => cases outcome <;> rfl

end

/-! ## scripts line by line -/

/-- an ending with lines printed before it -/
def Ending.after (events : List Event) (ending : Ending) : Ending :=
  { ending with events := events ++ ending.events }

section
variable (events : List Event) (ending : Ending)

theorem Ending.output_after : (ending.after events).output = events.filterMap Event.out? ++ ending.output :=
  List.filterMap_append

theorem Ending.errors_after : (ending.after events).errors = events.filterMap Event.err? ++ ending.errors :=
  List.filterMap_append

end

theorem runScriptOnto_eq (done : List Event) (document : Document) (lines : List (Option String)) :
    runScriptOnto done document lines = (runScript document lines).after done.reverse := by
  unfold runScript
  induction lines generalizing done document with
  | nil =>
    simp only [runScriptOnto, Ending.after, List.reverse_nil, List.append_nil]
  | cons line lines ih =>
    cases line with
    | none => simp only [runScriptOnto, Ending.after, List.reverse_cons, List.reverse_nil, List.nil_append]
    | some line =>
      simp only [runScriptOnto]
      obtain ⟨next, events, more⟩ := runLine document line
      cases more with
      | true =>
        -- both sides put the events of this line before those of the lines after it
        show runScriptOnto (events.reverse ++ done) next lines =
          (runScriptOnto (events.reverse ++ []) next lines).after done.reverse
        rw [ih, ih (events.reverse ++ [])]
        simp only [Ending.after, List.reverse_append, List.reverse_reverse, List.reverse_nil, List.nil_append,
          List.append_assoc]
      | false =>
        simp only [Ending.after, List.reverse_append, List.reverse_reverse, List.append_nil]

section
variable {document next : Document} {line : String} {events : List Event} (lines : List (Option String))

theorem runScript_cons (h : runLine document line = (next, events, true)) :
    runScript document (some line :: lines) = (runScript next lines).after events := by
  rw [runScript, runScriptOnto, h]
  show runScriptOnto (events.reverse ++ []) next lines = _
  rw [runScriptOnto_eq, List.append_nil, List.reverse_reverse]

theorem runScript_last (h : runLine document line = (next, events, false)) :
    runScript document (some line :: lines) = ⟨next, events, 0⟩ := by
  rw [runScript, runScriptOnto, h]
  simp only [List.append_nil, List.reverse_reverse]

end

section
variable {document next : Document} {line : String} {events : List Event} (lines : List String)

theorem reducedScript_of_idle (h : (isSkipped line || lineFails document line) = true)
    (hline : runLine document line = (document, events, true)) :
    reducedScript document (line :: lines) = reducedScript document lines := by
  rw [reducedScript, hline, if_pos h]
  rfl

theorem reducedScript_of_runs (h : (isSkipped line || lineFails document line) = false)
    (hline : runLine document line = (next, events, true)) :
    reducedScript document (line :: lines) = line :: reducedScript next lines := by
  rw [reducedScript, hline, if_neg (Bool.eq_false_iff.mp h)]
  rfl

theorem reducedScript_last (h : (isSkipped line || lineFails document line) = false)
    (hline : runLine document line = (next, events, false)) :
    reducedScript document (line :: lines) = line :: lines.filter (!isSkipped ·) := by
  rw [reducedScript, hline, if_neg (Bool.eq_false_iff.mp h)]
  rfl

end

/-! ## whole scripts -/

/-- **Failing lines leave no trace.**  Without them, and without the blank lines and comments, a script prints the
same output and no errors, and ends with the same document. -/
theorem runScript_reducedScript (document : Document) (lines : List String) :
    let full := runScript document (lines.map some)
    let short := runScript document ((reducedScript document lines).map some)
    short.output = full.output ∧ short.errors = [] ∧ short.document = full.document ∧ short.code = full.code := by
  -- a dropped line leaves the document, so both scripts go on from the same one
  induction lines generalizing document with
  | nil => exact ⟨rfl, rfl, rfl, rfl⟩
  | cons line lines ih =>
    cases hidle : isSkipped line || lineFails document line with
    | true =>
      obtain ⟨events, hline, hout⟩ := runLine_of_idle document line hidle
      rw [reducedScript_of_idle lines hidle hline, List.map_cons, runScript_cons _ hline]
      simp only [Ending.output_after, hout, List.nil_append]
      exact ih document
    | false =>
      have herr := runLine_of_runs document line hidle
      rcases hline : runLine document line with ⟨next, events, more⟩
      rw [hline] at herr
      cases more with
      | true =>
        obtain ⟨hout, herrors, hdocument, hcode⟩ := ih next
        rw [reducedScript_of_runs lines hidle hline, List.map_cons, List.map_cons, runScript_cons _ hline,
          runScript_cons _ hline]
        simp only [Ending.output_after, Ending.errors_after, hout, herr, herrors, List.nil_append]
        exact ⟨trivial, trivial, hdocument, hcode⟩
      | false =>
        rw [reducedScript_last lines hidle hline, List.map_cons, List.map_cons, runScript_last _ hline,
          runScript_last _ hline]
        exact ⟨rfl, herr, rfl, rfl⟩

example : reducedScript Document.default ["set A1 1", "# note", "set Z99 2", "type x", "quit", "frobnicate"] =
    ["set A1 1", "quit", "frobnicate"] := by rfl

end FormulaGrid
