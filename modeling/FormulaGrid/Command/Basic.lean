import FormulaGrid.Cell.Ref
import FormulaGrid.Text.Quoted

/-!
# Command lines

* `Command`         what a line can ask for;
* `CommandError`    why a line asks for nothing;
* `Command.parse`   the command of a line.

The name of a command is its first word, in letters of any case.  A text is what follows one blank
after that, as it stands.
-/

namespace FormulaGrid

open Number (IntegerError readInt)

inductive Command where
  | set (cell : CellRef) (text : String)
  | get (cell : CellRef)
  | raw (cell : CellRef)
  | clear (cell : CellRef)
  | eval (text : String)
  | show
  | list
  | click (cell : CellRef)
  | doubleClick (cell : CellRef)
  | edit
  | type (text : String)
  | commit (text : Option String)
  | tab (text : Option String)
  | cancel
  | bar (text : String)
  | move (rows cols : Int)
  | status
  | help
  | quit
  deriving DecidableEq, Repr

inductive CommandError where
  | missingReference
  | reference (cause : RefError)
  | rowOffset (text : String) (cause : IntegerError)
  | columnOffset (text : String) (cause : IntegerError)
  | unknown (name : String)
  deriving DecidableEq, Repr

/-- a text between double quotes -/
def quote (text : String) : String := String.ofList (Text.quoted text.toList)

def CommandError.message : CommandError → String
  | .missingReference => "expected a cell reference"
  | .reference cause => cause.message
  | .rowOffset text _ => "invalid row offset: " ++ quote text
  | .columnOffset text _ => "invalid column offset: " ++ quote text
  | .unknown name => s!"unknown command: {name} (try 'help')"

/-- the wordings of the errors behind an error -/
def CommandError.causes : CommandError → List String
  | .rowOffset _ cause => [cause.message]
  | .columnOffset _ cause => [cause.message]
  | _ => []

namespace Command

/-! ## arguments -/

/-- a word that names a cell -/
def parseRef (word : List Char) : Except CommandError CellRef :=
  if word.isEmpty then .error .missingReference
  else (CellRef.parse (String.ofList word)).mapError .reference

/-- all of the text names a cell -/
def parseOnlyRef (rest : List Char) : Except CommandError CellRef := parseRef (Text.trim rest)

/-- no text at all is a missing one -/
def optionalText (rest : List Char) : Option String :=
  if rest.isEmpty then none else some (String.ofList rest)

/-- a cell, and a text after one blank -/
def parseSet (rest : List Char) : Except CommandError Command :=
  let (word, text) := Text.splitWord rest
  (parseRef word).map fun cell => .set cell (String.ofList text)

/-- two offsets, signed words of 64 bits -/
def parseMove (rest : List Char) : Except CommandError Command :=
  let (word, after) := Text.splitWord rest
  let last := Text.trim after
  match readInt 64 word with
  | .error cause => .error (.rowOffset (String.ofList word) cause)
  | .ok rows =>
    match readInt 64 last with
    | .error cause => .error (.columnOffset (String.ofList last) cause)
    | .ok cols => .ok (.move rows cols)

/-! ## lines -/

/-- the command with a name in small letters, given the text after the name -/
def ofName (name : String) (rest : List Char) : Except CommandError Command :=
  match name with
  | "set" => parseSet rest
  | "get" => (parseOnlyRef rest).map .get
  | "raw" => (parseOnlyRef rest).map .raw
  | "clear" => (parseOnlyRef rest).map .clear
  | "eval" => .ok (.eval (String.ofList rest))
  | "show" => .ok .show
  | "list" => .ok .list
  | "click" => (parseOnlyRef rest).map .click
  | "dblclick" => (parseOnlyRef rest).map .doubleClick
  | "edit" => .ok .edit
  | "type" => .ok (.type (String.ofList rest))
  | "commit" => .ok (.commit (optionalText rest))
  | "tab" => .ok (.tab (optionalText rest))
  | "cancel" => .ok .cancel
  | "bar" => .ok (.bar (String.ofList rest))
  | "up" => .ok (.move (-1) 0)
  | "down" => .ok (.move 1 0)
  | "left" => .ok (.move 0 (-1))
  | "right" => .ok (.move 0 1)
  | "move" => parseMove rest
  | "status" => .ok .status
  | "help" => .ok .help
  | "?" => .ok .help
  | "quit" => .ok .quit
  | "exit" => .ok .quit
  | name => .error (.unknown name)

/-- the command of a line -/
def parse (line : String) : Except CommandError Command :=
  let (name, rest) := Text.splitWord line.toList
  ofName (String.ofList (name.map Char.toLower)) rest

end Command

end FormulaGrid
