import FormulaGrid.Session.Run

/-!
# The program

Reads commands line by line, with a prompt if the input is a terminal, and prints what they answer.
-/

namespace FormulaGrid

def Event.print : Event → IO Unit
  | .out line => do
    IO.println line
    (← IO.getStdout).flush
  | .err line => IO.eprintln line

/-- the text of the system for a fault, with its number -/
def reasonOf : IO.Error → String
  | .permissionDenied _ code text | .inappropriateType _ code text => s!"{text} (os error {code})"
  | fault => toString fault

/-- what is found at a path; where the path leads nowhere, the file is missing -/
def findFile (path : String) : IO FileState := do
  let .ok _ ← (IO.FS.realPath path).toBaseIO | return .missing
  match ← (IO.FS.readBinFile path).toBaseIO with
  | .ok bytes => return .readable bytes
  | .error fault => return .unreadable (reasonOf fault)

/-- the directory for the settings of programs, by the variables that name it -/
def configDirectory? : IO (Option String) := do
  match ← IO.getEnv "XDG_CONFIG_HOME" with
  | some directory =>
    if directory.startsWith "/" then return some directory
  | none => pure ()
  return (← IO.getEnv "HOME").map (· ++ "/.config")

def prompt (terminal : Bool) : IO Unit := do
  if terminal then
    IO.print "> "
    (← IO.getStdout).flush

/-- a line of the input as bytes, up to its end -/
partial def readLineBytes (stream : IO.FS.Stream) (read : ByteArray) : IO ByteArray := do
  let byte ← stream.read 1
  if byte.isEmpty || byte.toList == [10] then return read ++ byte
  readLineBytes stream (read ++ byte)

partial def interact (stream : IO.FS.Stream) (terminal : Bool) (document : Document) :
    IO UInt32 := do
  prompt terminal
  let bytes ← readLineBytes stream ByteArray.empty
  match inputLines bytes with
  | some line :: _ =>
    let (document, events, goOn) := runLine document line
    events.forM Event.print
    if goOn then interact stream terminal document else return 0
  | none :: _ =>
    unreadable.print
    return 1
  | [] => return 0

end FormulaGrid

open FormulaGrid in
def main (arguments : List String) : IO UInt32 := do
  match parseOptions arguments with
  | .error fault =>
    (fault.lines.map Event.err).forM Event.print
    return fault.code
  | .ok options =>
    let userFile := (← configDirectory?).map (· ++ "/sheetgrid/config.toml")
    let file ← match options.settingsFile userFile with
      | none => pure .missing
      | some (path, _) => findFile path
    match start TomlError.message (fun _ => file) userFile options with
    | .finished events code =>
      events.forM Event.print
      return code
    | .ready events document =>
      events.forM Event.print
      let stream ← IO.getStdin
      interact stream (← stream.isTty) document
