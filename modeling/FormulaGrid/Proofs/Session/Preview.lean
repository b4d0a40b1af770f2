import FormulaGrid.Session.Script
import FormulaGrid.Proofs.Command.Replay
import FormulaGrid.Proofs.Formula.Locality

/-!
# Previews of formulas

* `evaluateCell_eq`   a cell shows the evaluation of its text, whichever test of a formula is made first;
* `Reaches`           a cell that the evaluation of a text may look at: `evaluate_set`, no other one matters;
* `runLine_write`     the line of a command runs it;
* `preview_agrees_with_storing`   a text is evaluated to what it shows once it is stored.
-/

namespace FormulaGrid

open Formula

/-! ## cells -/

/-- `=` in the first place is not the only beginning of a formula, but the only one that is evaluated -/
theorem evaluate_of_not_isFormula (source : Source) (raw : String) (h : isFormula raw.toList = false) :
    evaluate source raw = .text raw := by
  unfold evaluate
  split
  · next cs e =>
    have hformula : isFormula ('=' :: cs) = true := by
      rw [isFormula, Text.trimStart_cons]
      rfl
    rw [e, hformula] at h
    cases h
  · rfl

theorem Document.evaluateCell_eq (document : Document) (cell : CellRef) :
    document.evaluateCell cell = (document.raw cell).map (evaluate document.sheet.source) := by
  unfold evaluateCell
  congr 1
  funext raw
  split
  · rfl
  · next h => rw [evaluate_of_not_isFormula _ raw (Bool.eq_false_iff.mpr h)]

/-! ## cells that an evaluation looks at -/

/-- a reference of the text stands for the cell, or one of a formula that the text refers to -/
def Reaches (source : Source) (cs : List Char) (cell : CellRef) : Prop :=
  Names cs cell ∨
    ∃ other, Names cs other ∧ isFormula (content source other) ∧ Names (content source other) cell

section
variable (sheet next : Sheet) (cell : CellRef) (text : String)
variable (hset : sheet.set cell.row cell.col text = .ok next)
include hset

theorem content_set (other : CellRef) (h : other ≠ cell) :
    content sheet.source other = content next.source other := by
  obtain ⟨_, hrows, hcols, hget⟩ := sheet.set_ok _ _ text next hset
  have hne : ¬ (other.row = cell.row ∧ other.col = cell.col) := by
    obtain ⟨row, col⟩ := cell
    obtain ⟨row', col'⟩ := other
    rintro ⟨rfl, rfl⟩
    exact h rfl
  have hraw : next.source.rawAt other = sheet.source.rawAt other := (hget other.row other.col).trans (if_neg hne)
  have hsize : other.inBounds next.source.rows next.source.cols =
      other.inBounds sheet.source.rows sheet.source.cols := congrArg₂ other.inBounds hrows hcols
  rw [content, content, hraw, hsize]

/-- **A cell that a text does not reach may change.** -/
theorem evaluate_set (raw : String) (h : ¬ Reaches sheet.source raw.toList cell) :
    evaluate sheet.source raw = evaluate next.source raw := by
  apply evaluate_congr
  intro one hone
  have hne : one ≠ cell := by
    rintro rfl
    exact h (.inl hone)
  refine ⟨content_set sheet next cell text hset one hne, fun hformula two htwo => ?_⟩
  have hne' : two ≠ cell := by
    rintro rfl
    exact h (.inr ⟨one, hone, hformula, htwo⟩)
  exact ⟨content_set sheet next cell text hset two hne', fun _ => trivial⟩

end

/-! ## commands and their lines -/

theorem run_get (document : Document) (cell : CellRef) (raw : String) (h : document.raw cell = some raw) :
    (Command.get cell).run document =
      (document, .ok (.output (evaluate document.sheet.source raw).shown)) := by
  rw [Command.run, document.evaluateCell_eq, h]
  rfl

theorem displayValue_of_raw (document : Document) (cell : CellRef) (raw : String) (h : document.raw cell = some raw) :
    document.displayValue cell.row cell.col = (evaluate document.sheet.source raw).shown := by
  rw [Document.displayValue, document.evaluateCell_eq, h]
  rfl

def Outcome.events : Outcome → List Event
  | .output text => [.out text]
  | _ => []

def Outcome.goesOn : Outcome → Bool
  | .quit => false
  | _ => true

/-- no name of a command is blank or a comment -/
theorem not_isSkipped_write (command : Command) : ¬ isSkipped command.write = true := by
  have hall : ∀ name ∈ Command.keywords, name.toList.head?.any fun c => !Text.isBlank c && c != '#' := by decide
  have hfirst := hall _ command.keyword_mem
  cases hname : command.keyword.toList with
  | nil => exact absurd hname command.keyword_ne_nil
  | cons c cs =>
    rw [hname, List.head?_cons, Option.any_some, Bool.and_eq_true, Bool.not_eq_true', bne_iff_ne] at hfirst
    rw [isSkipped, Command.write, String.toList_ofList, hname, List.cons_append, Text.trimStart_cons,
      if_neg (Bool.eq_false_iff.mp hfirst.1)]
    exact mt eq_of_beq hfirst.2

/-- **A line of a command runs the command.** -/
theorem runLine_write (command : Command) (h : command.Proper) (document next : Document) (outcome : Outcome)
    (hrun : command.run document = (next, .ok outcome)) :
    runLine document command.write = (next, outcome.events, outcome.goesOn) := by
  rw [runLine, if_neg (not_isSkipped_write command), Command.parse_of_spells command h _ (Command.spells_write _)]
  simp only [hrun]
  cases outcome <;> rfl

/-- **A text is evaluated to what it shows once it is stored.** Every cell of the grid shows the evaluation of its
text. A text that is stored in a cell which it does not reach shows there what it was evaluated to before, and the
lines of the three commands print just that. -/
theorem preview_agrees_with_storing (document : Document) :
    (∀ cell : CellRef, document.sheet.contains cell.row cell.col → ∃ raw, document.raw cell = some raw ∧
      document.evaluateCell cell = some (evaluate document.sheet.source raw)) ∧
    ∀ (cell : CellRef) (text : String), document.sheet.contains cell.row cell.col →
      ¬ Reaches document.sheet.source text.toList cell →
      ∃ stored shown, (Command.eval text).run document = (document, .ok (.output shown)) ∧
        (Command.set cell text).run document = (stored, .ok .silent) ∧
        (Command.get cell).run stored = (stored, .ok (.output shown)) ∧
        stored.displayValue cell.row cell.col = shown ∧
        (document.rows * document.cols ≤ maxCells →
          runLine document (Command.eval text).write = (document, [.out shown], true) ∧
          runLine document (Command.set cell text).write = (stored, [], true) ∧
          runLine stored (Command.get cell).write = (stored, [.out shown], true)) := by
  constructor
  · intro cell hin
    obtain ⟨raw, hraw⟩ := document.sheet.exists_get? _ _ hin
    have htext : document.raw cell = some raw := hraw
    exact ⟨raw, htext, by rw [document.evaluateCell_eq, htext]; rfl⟩
  · intro cell text hin hreach
    obtain ⟨next, hset⟩ := document.sheet.exists_set _ _ text hin
    obtain ⟨_, _, _, hget⟩ := document.sheet.set_ok _ _ text next hset
    have hraw : ({ document with sheet := next } : Document).raw cell = some text :=
      (hget cell.row cell.col).trans (if_pos ⟨rfl, rfl⟩)
    have heval : (Command.eval text).run document = (document, .ok (.output (evaluate next.source text).shown)) := by
      rw [← evaluate_set document.sheet next cell text hset text hreach]
      rfl
    have hstore : (Command.set cell text).run document = ({ document with sheet := next }, .ok .silent) := by
      rw [Command.run, Document.setCell, hset]
      rfl
    have hshow := run_get _ cell text hraw
    refine ⟨_, _, heval, hstore, hshow, displayValue_of_raw _ cell text hraw, fun hsize => ?_⟩
    have hcell := Command.numbered_of_contains document.sheet hsize cell hin
    exact ⟨runLine_write (.eval text) trivial _ _ _ heval, runLine_write (.set cell text) hcell _ _ _ hstore,
      runLine_write (.get cell) hcell _ _ _ hshow⟩

theorem eq_of_names {cs letters digits : List Char} {cell other : CellRef}
    (hrefs : references cs = [(letters, digits)]) (hparts : CellRef.ofParts? letters digits = some cell)
    (h : Names cs other) : other = cell := by
  obtain ⟨r, hr, hp⟩ := h
  rw [hrefs, List.mem_singleton] at hr
  rw [hr, hparts] at hp
  exact (Option.some.inj hp).symm

/-- the text refers to a formula, and is stored in a cell that neither of them refers to -/
theorem preview_behind_a_formula :
    let document := Document.ofSheet ⟨1, 3, #["old", "=C1+1", "5"], rfl⟩ .reclick
    document.sheet.contains 0 0 ∧ ¬ Reaches document.sheet.source "=B1*2".toList ⟨0, 0⟩ ∧
      ∃ stored shown, runLine document (Command.eval "=B1*2").write = (document, [.out shown], true) ∧
        runLine document (Command.set ⟨0, 0⟩ "=B1*2").write = (stored, [], true) ∧
        runLine stored (Command.get ⟨0, 0⟩).write = (stored, [.out shown], true) ∧
        stored.displayValue 0 0 = shown := by
  intro document
  have hin : document.sheet.contains 0 0 := by decide
  have hreach : ¬ Reaches document.sheet.source "=B1*2".toList ⟨0, 0⟩ := by
    have hone : references "=B1*2".toList = [(['B'], ['1'])] := by decide +kernel
    have htwo : references "=C1+1".toList = [(['C'], ['1'])] := by decide +kernel
    have hb : CellRef.ofParts? ['B'] ['1'] = some ⟨0, 1⟩ := by decide
    have hc : CellRef.ofParts? ['C'] ['1'] = some ⟨0, 2⟩ := by decide
    rintro (h | ⟨other, h, _, h'⟩)
    · exact absurd (eq_of_names hone hb h) (by decide)
    · rw [eq_of_names hone hb h] at h'
      exact absurd (eq_of_names htwo hc h') (by decide)
  obtain ⟨stored, shown, _, _, _, hdisplay, hlines⟩ :=
    (preview_agrees_with_storing document).2 ⟨0, 0⟩ "=B1*2" hin hreach
  obtain ⟨heval, hset, hget⟩ := hlines (by decide)
  exact ⟨hin, hreach, stored, shown, heval, hset, hget, hdisplay⟩

end FormulaGrid
