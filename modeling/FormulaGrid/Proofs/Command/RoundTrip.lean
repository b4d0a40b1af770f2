import FormulaGrid.Command.Basic
import FormulaGrid.Proofs.Cell.RoundTrip

/-!
# Command lines, read and written

* `Command.keyword`, `Command.arguments`   the name of a command and the texts after it;
* `Command.write`      the line of a command: name and arguments with a space in front of each;
* `Command.Spells`     the lines that say the same: blanks in front, letters of any case in the name, any blank
                       in front of an argument;
* `Command.Proper`     references have numbers, no text to commit is empty, offsets are words of 64 bits;
* `parse_of_spells`    a line of a proper command is read as that command;
* `proper_of_parse`    every command that is read is proper;
* `lines_round_trip`   both, for every command.
-/

namespace FormulaGrid.Command

open CellRef Number Text

/-! ## writing -/

/-- the name that a command is written with -/
def keyword : Command → String
  | .set _ _ => "set"
  | .get _ => "get"
  | .raw _ => "raw"
  | .clear _ => "clear"
  | .eval _ => "eval"
  | .show => "show"
  | .list => "list"
  | .click _ => "click"
  | .doubleClick _ => "dblclick"
  | .edit => "edit"
  | .type _ => "type"
  | .commit _ => "commit"
  | .tab _ => "tab"
  | .cancel => "cancel"
  | .bar _ => "bar"
  | .move _ _ => "move"
  | .status => "status"
  | .help => "help"
  | .quit => "quit"

/-- the texts after the name: references by their names, texts as they stand, offsets in decimal -/
def arguments : Command → List (List Char)
  | .set cell text => [cell.name.toList, text.toList]
  | .get cell => [cell.name.toList]
  | .raw cell => [cell.name.toList]
  | .clear cell => [cell.name.toList]
  | .eval text => [text.toList]
  | .click cell => [cell.name.toList]
  | .doubleClick cell => [cell.name.toList]
  | .type text => [text.toList]
  | .commit (some text) => [text.toList]
  | .tab (some text) => [text.toList]
  | .bar text => [text.toList]
  | .move rows cols => [integerText rows, integerText cols]
  | _ => []

def write (command : Command) : String :=
  String.ofList (command.keyword.toList ++ command.arguments.flatMap (' ' :: ·))

/-- texts one after the other, a blank in front of each -/
inductive Behind : List (List Char) → List Char → Prop where
  | nil : Behind [] []
  | cons (c : Char) (arg : List Char) (args : List (List Char)) (rest : List Char) : isBlank c →
      Behind args rest → Behind (arg :: args) (c :: (arg ++ rest))

/-- a line of the command: blanks, its name in letters of any case, and its arguments -/
inductive Spells (command : Command) : List Char → Prop where
  | line (front name rest : List Char) : (∀ c ∈ front, isBlank c) →
      name.map Char.toLower = command.keyword.toList → Behind command.arguments rest →
      Spells command (front ++ (name ++ rest))

/-- the row and the column can be counted from one -/
def Numbered (cell : CellRef) : Prop := cell.row < maxIndex ∧ cell.col < maxIndex

/-- what lines can say -/
def Proper : Command → Prop
  | .set cell _ => Numbered cell
  | .get cell => Numbered cell
  | .raw cell => Numbered cell
  | .clear cell => Numbered cell
  | .click cell => Numbered cell
  | .doubleClick cell => Numbered cell
  | .commit (some text) => text ≠ ""
  | .tab (some text) => text ≠ ""
  | .move rows cols => InRange 64 rows ∧ InRange 64 cols
  | _ => True

theorem behind_flatMap (args : List (List Char)) : Behind args (args.flatMap (' ' :: ·)) := by
  induction args with
  | nil => exact .nil
  | cons arg args ih => exact .cons ' ' arg args _ (by decide) ih

/-- all names that commands are written with -/
def keywords : List String :=
  ["set", "get", "raw", "clear", "eval", "show", "list", "click", "dblclick", "edit", "type", "commit", "tab",
    "cancel", "bar", "move", "status", "help", "quit"]

theorem keyword_mem (command : Command) : command.keyword ∈ keywords := by
  cases command <;> simp [keyword, keywords]

theorem keyword_ne_nil (command : Command) : command.keyword.toList ≠ [] := by
  have hall : ∀ name ∈ keywords, name.toList ≠ [] := by decide
  exact hall _ command.keyword_mem

theorem of_mem_keyword (command : Command) :
    ∀ c ∈ command.keyword.toList, isBlank c = false ∧ c.toLower = c := by
  have hall : ∀ name ∈ keywords, name.toList.all (fun c => !isBlank c && c.toLower == c) := by decide
  intro c hc
  have h := List.all_eq_true.mp (hall _ command.keyword_mem) c hc
  rw [Bool.and_eq_true, Bool.not_eq_true', beq_iff_eq] at h
  exact h

theorem toLower_keyword (command : Command) :
    command.keyword.toList.map Char.toLower = command.keyword.toList := by
  conv_rhs => rw [← List.map_id command.keyword.toList]
  exact List.map_congr_left fun c hc => (of_mem_keyword command c hc).2

/-- **The line of a command is one of its lines.** -/
theorem spells_write (command : Command) : command.Spells command.write.toList := by
  rw [write, String.toList_ofList, ← List.nil_append (_ ++ _)]
  exact .line [] _ _ (fun _ h => nomatch h) (toLower_keyword command) (behind_flatMap _)

/-! ## reading arguments -/

theorem Behind.head {args : List (List Char)} {rest : List Char} (h : Behind args rest) :
    ∀ c ∈ rest.head?, isBlank c := by
  cases h with
  | nil => exact fun _ hc => nomatch hc
  | cons c arg args rest hc =>
    rintro _ ⟨⟩
    exact hc

theorem Behind.nil_eq {rest : List Char} (h : Behind [] rest) : rest = [] := by
  cases h
  rfl

theorem Behind.drop_one {arg rest : List Char} (h : Behind [arg] rest) : rest.drop 1 = arg := by
  cases h with
  | cons c _ _ _ _ h =>
    rw [h.nil_eq, List.append_nil]
    rfl

theorem Behind.drop_two {first second rest : List Char} (h : Behind [first, second] rest) :
    ∃ c, isBlank c ∧ rest.drop 1 = first ++ c :: second := by
  cases h with
  | cons _ _ _ _ _ h =>
    cases h with
    | cons c _ _ _ hc h =>
      refine ⟨c, hc, ?_⟩
      rw [h.nil_eq, List.append_nil]
      rfl

theorem splitWord_argument (word rest : List Char) (c : Char) (hne : word ≠ [])
    (hword : ∀ d ∈ word, isBlank d = false) (hc : isBlank c) : splitWord (word ++ c :: rest) = (word, rest) :=
  splitWord_append [] word (c :: rest) (fun _ h => nomatch h) hne hword (by rintro _ ⟨⟩; exact hc)

section
variable (cell : CellRef) (h : Numbered cell)
include h

theorem parseRef_name : parseRef cell.name.toList = .ok cell := by
  have hne : ¬ cell.name.toList.isEmpty = true := fun e => name_ne_nil cell (List.isEmpty_iff.mp e)
  rw [parseRef, if_neg hne, String.ofList_toList, CellRef.parse, parse?_name cell h.1 h.2]
  rfl

theorem parseOnlyRef_name : parseOnlyRef cell.name.toList = .ok cell := by
  rw [parseOnlyRef, trim_eq_self _ (isBlank_of_mem_name cell), parseRef_name cell h]

theorem parseSet_name (c : Char) (hc : isBlank c) (text : String) :
    parseSet (cell.name.toList ++ c :: text.toList) = .ok (.set cell text) := by
  rw [parseSet, splitWord_argument _ _ c (name_ne_nil cell) (isBlank_of_mem_name cell) hc]
  simp only [parseRef_name cell h, String.ofList_toList]
  rfl

end

theorem isBlank_of_mem_integerText (n : Int) (c : Char) (h : c ∈ integerText n) : isBlank c = false := by
  have hdigits : ∀ m, c ∈ Nat.toDigits 10 m → isBlank c = false := fun m hm =>
    isBlank_of_isWord c (isWord_of_isDigit c (List.all_eq_true.mp (all_isDigit_toDigits m) c hm))
  cases n with
  | ofNat m => exact hdigits m h
  | negSucc m =>
    rcases List.mem_cons.mp h with rfl | h
    · decide
    · exact hdigits (m + 1) h

theorem integerText_ne_nil (n : Int) : integerText n ≠ [] := by
  cases n with
  | ofNat m => exact Nat.toDigits_ne_nil
  | negSucc m => exact List.cons_ne_nil _ _

theorem parseMove_integerText (rows cols : Int) (hrows : InRange 64 rows) (hcols : InRange 64 cols) (c : Char)
    (hc : isBlank c) : parseMove (integerText rows ++ c :: integerText cols) = .ok (.move rows cols) := by
  rw [parseMove, splitWord_argument _ _ c (integerText_ne_nil rows) (isBlank_of_mem_integerText rows) hc]
  simp only [trim_eq_self _ (isBlank_of_mem_integerText cols), readInt_integerText 64 rows hrows,
    readInt_integerText 64 cols hcols]

theorem optionalText_toList (text : String) (h : text ≠ "") : optionalText text.toList = some text := by
  have hne : ¬ text.toList.isEmpty = true := fun e => h (String.toList_eq_nil_iff.mp (List.isEmpty_iff.mp e))
  rw [optionalText, if_neg hne, String.ofList_toList]

/-! ## reading lines -/

theorem ofName_keyword (command : Command) (h : command.Proper) (rest : List Char)
    (hrest : Behind command.arguments rest) : ofName command.keyword (rest.drop 1) = .ok command := by
  cases command with
  | set cell text =>
    obtain ⟨c, hc, e⟩ := hrest.drop_two
    rw [e]
    exact parseSet_name cell h c hc text
  | move rows cols =>
    obtain ⟨c, hc, e⟩ := hrest.drop_two
    rw [e]
    exact parseMove_integerText rows cols h.1 h.2 c hc
  | get cell => exact congrArg (Except.map Command.get) (hrest.drop_one ▸ parseOnlyRef_name cell h)
  | raw cell => exact congrArg (Except.map Command.raw) (hrest.drop_one ▸ parseOnlyRef_name cell h)
  | clear cell => exact congrArg (Except.map Command.clear) (hrest.drop_one ▸ parseOnlyRef_name cell h)
  | click cell => exact congrArg (Except.map Command.click) (hrest.drop_one ▸ parseOnlyRef_name cell h)
  | doubleClick cell => exact congrArg (Except.map Command.doubleClick) (hrest.drop_one ▸ parseOnlyRef_name cell h)
  | eval text => exact congrArg (Except.ok ∘ Command.eval) (hrest.drop_one ▸ String.ofList_toList)
  | type text => exact congrArg (Except.ok ∘ Command.type) (hrest.drop_one ▸ String.ofList_toList)
  | bar text => exact congrArg (Except.ok ∘ Command.bar) (hrest.drop_one ▸ String.ofList_toList)
  | commit text =>
    cases text with
    | none => exact congrArg (fun rest => Except.ok (Command.commit (optionalText (rest.drop 1)))) hrest.nil_eq
    | some text => exact congrArg (Except.ok ∘ Command.commit) (hrest.drop_one ▸ optionalText_toList text h)
  | tab text =>
    cases text with
    | none => exact congrArg (fun rest => Except.ok (Command.tab (optionalText (rest.drop 1)))) hrest.nil_eq
    | some text => exact congrArg (Except.ok ∘ Command.tab) (hrest.drop_one ▸ optionalText_toList text h)
  | _ => rfl

/-- **Every line of a proper command is read as that command.** -/
theorem parse_of_spells (command : Command) (h : command.Proper) (line : String)
    (hline : command.Spells line.toList) : parse line = .ok command := by
  obtain ⟨front, name, rest, hfront, hname, hrest, e⟩ : ∃ front name rest, (∀ c ∈ front, isBlank c) ∧
      name.map Char.toLower = command.keyword.toList ∧ Behind command.arguments rest ∧
      line.toList = front ++ (name ++ rest) := by
    generalize line.toList = cs at hline
    cases hline with
    | line front name rest hfront hname hrest => exact ⟨front, name, rest, hfront, hname, hrest, rfl⟩
  have hne : name ≠ [] := by
    rintro rfl
    exact keyword_ne_nil command hname.symm
  -- a blank in the name would stay one in small letters
  have hword : ∀ c ∈ name, isBlank c = false := by
    intro c hc
    apply Bool.eq_false_iff.mpr
    intro hblank
    have hmem : c.toLower ∈ command.keyword.toList := hname ▸ List.mem_map_of_mem hc
    rw [toLower_of_isBlank c hblank] at hmem
    rw [(of_mem_keyword command c hmem).1] at hblank
    cases hblank
  rw [parse, e, splitWord_append front name rest hfront hne hword hrest.head]
  simp only [hname, String.ofList_toList]
  exact ofName_keyword command h rest hrest

/-! ## commands that are read -/

theorem numbered_of_parseRef (word : List Char) (cell : CellRef) (h : parseRef word = .ok cell) :
    Numbered cell := by
  unfold parseRef at h
  split at h
  · cases h
  · unfold CellRef.parse at h
    split at h
    · next cell' e =>
      obtain rfl := Except.ok.inj h
      exact bounds_of_parse? _ _ e
    · cases h

theorem proper_of_parseSet (rest : List Char) (command : Command) (h : parseSet rest = .ok command) :
    command.Proper := by
  obtain ⟨cell, hcell, rfl⟩ := exists_of_map_ok _ _ _ h
  exact numbered_of_parseRef _ cell hcell

theorem proper_of_parseMove (rest : List Char) (command : Command) (h : parseMove rest = .ok command) :
    command.Proper := by
  unfold parseMove at h
  simp only at h
  split at h
  · cases h
  · next rows hrows =>
    split at h
    · cases h
    · next cols hcols =>
      obtain rfl := Except.ok.inj h
      exact ⟨inRange_of_readInt 64 _ rows hrows, inRange_of_readInt 64 _ cols hcols⟩

theorem ne_empty_of_optionalText (rest : List Char) (text : String) (h : optionalText rest = some text) :
    text ≠ "" := by
  unfold optionalText at h
  split at h
  · cases h
  · next hne =>
    obtain rfl := Option.some.inj h
    intro e
    rw [← String.toList_eq_nil_iff, String.toList_ofList] at e
    exact hne (List.isEmpty_iff.mpr e)

theorem proper_of_parseOnlyRef (name : CellRef → Command) (hname : ∀ cell, Numbered cell → (name cell).Proper)
    (rest : List Char) (command : Command) (h : (parseOnlyRef rest).map name = .ok command) :
    command.Proper := by
  obtain ⟨cell, hcell, rfl⟩ := exists_of_map_ok _ _ _ h
  exact hname cell (numbered_of_parseRef _ cell hcell)

theorem proper_optionalText (rest : List Char) :
    (Command.commit (optionalText rest)).Proper ∧ (Command.tab (optionalText rest)).Proper := by
  cases htext : optionalText rest with
  | none => exact ⟨trivial, trivial⟩
  | some text => exact ⟨ne_empty_of_optionalText rest text htext, ne_empty_of_optionalText rest text htext⟩

theorem proper_of_ofName (name : String) (rest : List Char) (command : Command)
    (h : ofName name rest = .ok command) : command.Proper := by
  have hread : ∀ other : Command, Except.ok (ε := CommandError) other = .ok command → other.Proper →
      command.Proper := by
    rintro other ⟨⟩ hother
    exact hother
  have hunit : InRange 64 (-1) ∧ InRange 64 0 ∧ InRange 64 1 := by decide
  unfold ofName at h
  -- one case for each name, in the order of the definition
  split at h
  · exact proper_of_parseSet rest command h
  · exact proper_of_parseOnlyRef .get (fun _ => id) rest command h
  · exact proper_of_parseOnlyRef .raw (fun _ => id) rest command h
  · exact proper_of_parseOnlyRef .clear (fun _ => id) rest command h
  · exact hread _ h trivial
  · exact hread _ h trivial
  · exact hread _ h trivial
  · exact proper_of_parseOnlyRef .click (fun _ => id) rest command h
  · exact proper_of_parseOnlyRef .doubleClick (fun _ => id) rest command h
  · exact hread _ h trivial
  · exact hread _ h trivial
  · exact hread _ h (proper_optionalText rest).1
  · exact hread _ h (proper_optionalText rest).2
  · exact hread _ h trivial
  · exact hread _ h trivial
  · exact hread _ h ⟨hunit.1, hunit.2.1⟩
  · exact hread _ h ⟨hunit.2.2, hunit.2.1⟩
  · exact hread _ h ⟨hunit.2.1, hunit.1⟩
  · exact hread _ h ⟨hunit.2.1, hunit.2.2⟩
  · exact proper_of_parseMove rest command h
  · exact hread _ h trivial
  · exact hread _ h trivial
  · exact hread _ h trivial
  · exact hread _ h trivial
  · exact hread _ h trivial
  · cases h

/-- **Every command that is read is proper.** -/
theorem proper_of_parse (line : String) (command : Command) (h : parse line = .ok command) : command.Proper :=
  proper_of_ofName _ _ command h

/-- **Command lines are read as they are written.** Every line of a proper command, the one that is written for it
among them, is read as that command, and every command that is read is proper, so that what is written for it
is read as it again. -/
theorem lines_round_trip (command : Command) :
    command.Spells command.write.toList ∧
    (command.Proper → ∀ line : String, command.Spells line.toList → parse line = .ok command) ∧
    (∀ line, parse line = .ok command → command.Proper ∧ parse command.write = .ok command) := by
  refine ⟨spells_write command, parse_of_spells command, fun line h => ?_⟩
  have hproper := proper_of_parse line command h
  exact ⟨hproper, parse_of_spells command hproper _ (spells_write command)⟩

/-- blanks in front, a name in mixed case, and a tab and a wide blank for the two spaces -/
theorem set_line_with_other_blanks : parse "  SeT\tAA2\u2003 a  b " = .ok (.set ⟨1, 26⟩ " a  b ") := by
  have hproper : (Command.set ⟨1, 26⟩ " a  b ").Proper := ⟨by decide, by decide⟩
  have hname : CellRef.name ⟨1, 26⟩ = "AA2" := by decide +kernel
  have hparts : "  SeT\tAA2\u2003 a  b ".toList = "  ".toList ++ ("SeT".toList ++
      ('\t' :: ("AA2".toList ++ ('\u2003' :: (" a  b ".toList ++ []))))) := by decide +kernel
  have hline : (Command.set ⟨1, 26⟩ " a  b ").Spells "  SeT\tAA2\u2003 a  b ".toList := by
    rw [hparts]
    refine .line _ _ _ (List.all_eq_true.mp (by decide)) (by decide) ?_
    rw [arguments, hname]
    exact .cons _ _ _ _ (by decide) (.cons _ _ _ _ (by decide) .nil)
  exact (lines_round_trip _).2.1 hproper _ hline

end FormulaGrid.Command
