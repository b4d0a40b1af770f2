import FormulaGrid.Text.Quoted
import FormulaGrid.Number.Bounded

/-!
# The options of the program

* `Options`         what the arguments ask for;
* `OptionFault`     why they cannot be followed;
* `parseOptions`    the options in a list of arguments;
* `usage`           the summary of the options.

Arguments are taken from the left.  Of several values for one option the last counts.  A value is
taken as it stands, even if it looks like an option, and the first fault ends the reading.
-/

namespace FormulaGrid

structure Options where
  command : Option String := none
  rows : Option Nat := none
  cols : Option Nat := none
  config : Option String := none
  noConfig : Bool := false
  deriving DecidableEq, Repr

inductive ValueFlag where
  | command
  | rows
  | cols
  | config
  deriving DecidableEq, Repr

inductive Flag where
  | help
  | noConfig
  | withValue (flag : ValueFlag)
  deriving DecidableEq, Repr

inductive OptionFault where
  | help
  | missingValue (flag : ValueFlag)
  | notANumber (flag : ValueFlag) (text : String)
  | unexpected (argument : String)
  deriving DecidableEq, Repr

def ValueFlag.name : ValueFlag → String
  | .command => "--command"
  | .rows => "--rows"
  | .cols => "--cols"
  | .config => "--config"

def Flag.ofArgument? (argument : String) : Option Flag :=
  match argument with
  | "-h" => some .help
  | "--help" => some .help
  | "-c" => some (.withValue .command)
  | "--command" => some (.withValue .command)
  | "--rows" => some (.withValue .rows)
  | "--cols" => some (.withValue .cols)
  | "--config" => some (.withValue .config)
  | "--no-config" => some .noConfig
  | _ => none

/-- a count, or the fault that the text is none -/
def readCount (flag : ValueFlag) (text : String) : Except OptionFault Nat :=
  (Number.readNat Number.maxIndex text.toList).mapError fun _ => .notANumber flag text

def Options.set (options : Options) (flag : ValueFlag) (value : String) :
    Except OptionFault Options :=
  match flag with
  | .command => .ok { options with command := some value }
  | .rows => (readCount .rows value).map fun n => { options with rows := some n }
  | .cols => (readCount .cols value).map fun n => { options with cols := some n }
  | .config => .ok { options with config := some value }

/-- the options in a list of arguments, after those already read -/
def Options.extend (options : Options) : List String → Except OptionFault Options
  | [] => .ok options
  | argument :: rest =>
    match Flag.ofArgument? argument with
    | none => .error (.unexpected argument)
    | some .help => .error .help
    | some .noConfig => { options with noConfig := true }.extend rest
    | some (.withValue flag) =>
      match rest with
      | [] => .error (.missingValue flag)
      | value :: rest =>
        match options.set flag value with
        | .error fault => .error fault
        | .ok options => options.extend rest

def parseOptions (arguments : List String) : Except OptionFault Options :=
  ({} : Options).extend arguments

def usage : List String := [
  "Usage: sheetgrid [OPTIONS]",
  "",
  "Reads commands from stdin (type 'help' for the list).",
  "",
  "Options:",
  "  -c, --command <FORMULA>   Evaluate one formula on a blank sheet and exit",
  "  --rows <N>                Number of rows (default: 10)",
  "  --cols <N>                Number of columns (default: 5)",
  "  --config <FILE>           Load settings from a TOML file",
  "  --no-config               Ignore the user config file",
  "  -h, --help                Print help"]

/-- what is printed about a fault, line by line -/
def OptionFault.lines : OptionFault → List String
  | .help => usage
  | .missingValue flag => ["Error: " ++ flag.name ++ " requires a value"]
  | .notANumber flag text =>
    ["Error: " ++ flag.name ++ " expects a number, got " ++ String.ofList (Text.quoted text.toList)]
  | .unexpected argument => ("Error: Unexpected argument: " ++ argument) :: usage

/-- the exit code for a fault; to ask for help is none -/
def OptionFault.code : OptionFault → UInt32
  | .help => 0
  | _ => 1

end FormulaGrid
