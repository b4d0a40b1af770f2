import FormulaGrid.Number.Written
import FormulaGrid.Settings.Basic
import FormulaGrid.Text.Quoted
import FormulaGrid.Toml.Document

/-!
# Settings out of TOML

* `DecodeError`          why a table holds no settings;
* `decodeSettings`       the settings in a table;
* `Settings.ofToml`      the settings in the text of a document.

The only key at the top is `grid`.  Below it stand `rows`, `cols` and `click_to_edit`, each of them
optional; an array with these three in order may stand in place of that table, too.  Of several
faults the first in the order of the document is reported.
-/

namespace FormulaGrid

open Toml (Value Table)

/-! ## faults -/

inductive Expected where
  | count
  | grid
  deriving DecidableEq, Repr

inductive PolicyFault where
  | unknown (name : String)
  | noElement
  | manyElements
  | notStringOrTable
  | notEmptyTable
  | notEmptyArray
  | notTable (found : String)
  deriving DecidableEq, Repr

inductive DecodeError where
  | unknownTopKey (key : String)
  | unknownGridKey (key : String)
  | invalidType (found : String) (expected : Expected)
  | invalidValue (found : String) (expected : Expected)
  | policy (fault : PolicyFault)
  deriving DecidableEq, Repr

def Expected.message : Expected → String
  | .count => "usize"
  | .grid => "struct GridConfig"

def PolicyFault.message : PolicyFault → String
  | .unknown name => "unknown variant `" ++ name ++ "`, expected `reclick` or `double-click`"
  | .noElement => "wanted exactly 1 element, found 0 elements"
  | .manyElements => "wanted exactly 1 element, more than 1 element"
  | .notStringOrTable => "wanted string or table"
  | .notEmptyTable => "expected empty table"
  | .notEmptyArray => "expected empty array"
  | .notTable found => "expected table, found " ++ found

def DecodeError.message : DecodeError → String
  | .unknownTopKey key => "unknown field `" ++ key ++ "`, expected `grid`"
  | .unknownGridKey key =>
    "unknown field `" ++ key ++ "`, expected one of `rows`, `cols`, `click_to_edit`"
  | .invalidType found expected => "invalid type: " ++ found ++ ", expected " ++ expected.message
  | .invalidValue found expected => "invalid value: " ++ found ++ ", expected " ++ expected.message
  | .policy fault => fault.message

/-- a float with a point in it, unless it is not finite -/
def describeFloat (x : Float) : List Char :=
  let text := Number.write Number.operandStyle x
  if x.isFinite && !text.contains '.' then text ++ ['.', '0'] else text

/-- a value as the messages name it -/
def describe : Value → String
  | .string s => "string " ++ String.ofList (Text.quoted s.toList)
  | .integer n => "integer `" ++ toString n ++ "`"
  | .float x => "floating point `" ++ String.ofList (describeFloat x) ++ "`"
  | .boolean b => "boolean `" ++ toString b ++ "`"
  | .datetime => "map"
  | .array _ => "sequence"
  | .table .. => "map"
  | .tables _ => "sequence"

/-! ## decoding -/

def decodeCount : Value → Except DecodeError Nat
  | .integer (.ofNat n) => .ok n
  | .integer n => .error (.invalidValue (describe (.integer n)) .count)
  | v => .error (.invalidType (describe v) .count)

def policyOfName (name : String) : Except PolicyFault ClickToEdit :=
  if name = "reclick" then .ok .reclick
  else if name = "double-click" then .ok .doubleClick
  else .error (.unknown name)

/-- what stands beside the name of a policy in a table has to be empty -/
def checkEmpty : Value → Except PolicyFault Unit
  | .tables _ => .error .notEmptyArray
  | .array items => if items.isEmpty then .ok () else .error .notEmptyTable
  | .table _ entries => if entries.isEmpty then .ok () else .error .notEmptyTable
  | .string _ => .error (.notTable "string")
  | .integer _ => .error (.notTable "integer")
  | .float _ => .error (.notTable "float")
  | .boolean _ => .error (.notTable "boolean")
  | .datetime => .error (.notTable "datetime")

/-- a click policy: its name, or a table with the name as its only key -/
def decodePolicy : Value → Except PolicyFault ClickToEdit
  | .string name => policyOfName name
  | .table _ [] => .error .noElement
  | .table _ [(name, v)] => do
    let policy ← policyOfName name
    checkEmpty v
    return policy
  | .table .. => .error .manyElements
  | _ => .error .notStringOrTable

/-- a key of the grid and its value -/
def decodeGridEntry (settings : Settings) (key : String) (v : Value) :
    Except DecodeError Settings :=
  match key with
  | "rows" => (decodeCount v).map fun n => { settings with rows := n }
  | "cols" => (decodeCount v).map fun n => { settings with cols := n }
  | "click_to_edit" =>
    ((decodePolicy v).mapError .policy).map fun policy => { settings with clickToEdit := policy }
  | key => .error (.unknownGridKey key)

/-- the keys of the grid, in the order in which an array has their values -/
def gridKeys : List String := ["rows", "cols", "click_to_edit"]

/-- entries of the grid one after the other -/
def decodeEntries (entries : List (String × Value)) : Except DecodeError Settings :=
  entries.foldlM (fun settings entry => decodeGridEntry settings entry.1 entry.2) {}

/-- the grid: a table, or an array of the values alone -/
def decodeGrid : Value → Except DecodeError Settings
  | .table _ entries => decodeEntries entries
  | .array items => decodeEntries (gridKeys.zip items)
  | .tables items => decodeEntries (gridKeys.zip (items.map (Value.table .header)))
  | .datetime => .error (.unknownGridKey "$__toml_private_datetime")
  | v => .error (.invalidType (describe v) .grid)

def decodeSettings (table : Table) : Except DecodeError Settings :=
  table.foldlM (fun _ entry =>
    if entry.1 = "grid" then decodeGrid entry.2 else .error (.unknownTopKey entry.1)) {}

/-- why a text holds no settings -/
inductive TomlError where
  | notToml
  | decode (cause : DecodeError)
  deriving DecidableEq, Repr

/-- the wording of an error -/
def TomlError.message : TomlError → String
  | .notToml => "not a TOML document"
  | .decode cause => cause.message

/-- the settings in the text of a document -/
def Settings.ofToml (text : String) : Except TomlError Settings :=
  match Toml.parse? text with
  | none => .error .notToml
  | some table => (decodeSettings table).mapError .decode

end FormulaGrid
