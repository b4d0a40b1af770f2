import FormulaGrid.Session.Options
import FormulaGrid.Session.Script
import FormulaGrid.Settings.Load

/-!
# A run of the program

* `Options.settingsFile`   the settings file that is read, and whether it was asked for;
* `Start`                  what is done before any input is read;
* `start`                  the start of a run with given options and a given settings file;
* `Surroundings`, `run`    a whole run, from its arguments to its exit code.
-/

namespace FormulaGrid

/-- the settings file that is read, and whether it was asked for; the other one is the user's -/
def Options.settingsFile (options : Options) (userFile : Option String) : Option (String × Bool) :=
  if options.noConfig then none
  else
    match options.config with
    | some path => some (path, true)
    | none => userFile.map fun path => (path, false)

inductive Start where
  /-- all that is to be done -/
  | finished (events : List Event) (code : UInt32)
  /-- a document that commands are to be run on -/
  | ready (events : List Event) (document : Document)

def startWith (options : Options) (settings : Settings) (events : List Event) : Start :=
  match Document.ofSettings (settings.overridden options.rows options.cols) with
  | .error cause => .finished (events ++ [.err ("Error: " ++ cause.message)]) 1
  | .ok document =>
    match options.command with
    | some formula =>
      .finished (events ++ [.out (Formula.evaluate document.sheet.source formula).shown]) 0
    | none => .ready events document

/-- the start of a run; `file` gives what is found at a path -/
def start (describe : TomlError → String) (file : String → FileState)
    (userFile : Option String) (options : Options) : Start :=
  match options.settingsFile userFile with
  | none => startWith options {} []
  | some (path, asked) =>
    let (settings, warning) := loadSettings path asked (file path)
    startWith options settings
      (warning.toList.map fun w => .err ("Warning: " ++ w.message describe))

/-- files that can be read if they are there, told by their bytes -/
instance : Coe (String → Option ByteArray) (String → FileState) := ⟨fun file path => file path⟩

structure Surroundings where
  arguments : List String
  input : ByteArray
  /-- what is found at a path -/
  file : String → FileState
  /-- the path of the user's settings file -/
  userFile : Option String
  /-- the wording of faults in a settings file -/
  describe : TomlError → String

/-- a whole run: what is printed, and the exit code -/
def run (world : Surroundings) : List Event × UInt32 :=
  match parseOptions world.arguments with
  | .error fault => (fault.lines.map .err, fault.code)
  | .ok options =>
    match start world.describe world.file world.userFile options with
    | .finished events code => (events, code)
    | .ready events document =>
      let ending := runScript document (inputLines world.input)
      (events ++ ending.events, ending.code)

end FormulaGrid
