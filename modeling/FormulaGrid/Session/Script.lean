import FormulaGrid.Command.Run

/-!
# Scripts

* `Event`        a line for the standard output or for the standard error;
* `inputLines`   the lines of an input, as far as they are text;
* `runLine`      a document after one line, what is printed, and whether to go on;
* `runScript`    a document after a list of lines.

Blank lines and lines that begin with `#` are skipped, blanks in front aside.  A line that fails is
reported and the script goes on.
-/

namespace FormulaGrid

inductive Event where
  | out (line : String)
  | err (line : String)
  deriving DecidableEq, Repr

/-! ## lines of input -/

/-- a line without the carriage return at its end -/
def dropReturn (bytes : List UInt8) : List UInt8 :=
  if bytes.getLast? = some 13 then bytes.dropLast else bytes

/-- the stretches of bytes that line ends close, and what stands behind the last one -/
def byteLines (bytes : List UInt8) : List (List UInt8) :=
  let pieces := bytes.splitOn 10
  pieces.dropLast.map dropReturn ++ (pieces.getLast?.filter (!·.isEmpty)).toList

/-- the lines of an input; a line that is not UTF-8 is missing -/
def inputLines (input : ByteArray) : List (Option String) :=
  (byteLines input.toList).map fun bytes => String.fromUTF8? ⟨bytes.toArray⟩

/-! ## running -/

/-- nothing, or a comment -/
def isSkipped (line : String) : Bool :=
  match Text.trimStart line.toList with
  | [] => true
  | c :: _ => c == '#'

/-- a document after a line, what is printed, and whether to go on -/
def runLine (document : Document) (line : String) : Document × List Event × Bool :=
  if isSkipped line then (document, [], true)
  else
    match Command.parse line with
    | .error cause => (document, [.err ("Error: " ++ cause.message)], true)
    | .ok command =>
      match command.run document with
      | (document, .error cause) => (document, [.err ("Error: " ++ cause.message)], true)
      | (document, .ok (.output text)) => (document, [.out text], true)
      | (document, .ok .silent) => (document, [], true)
      | (document, .ok .quit) => (document, [], false)

/-- how a script ended -/
structure Ending where
  document : Document
  events : List Event
  code : UInt32

/-- what is printed about an input that is not text -/
def unreadable : Event :=
  .err "Error: reading stdin\n\nCaused by:\n    stream did not contain valid UTF-8"

/-- a document after a list of lines; the events before stand in `done`, in reverse order -/
def runScriptOnto (done : List Event) (document : Document) : List (Option String) → Ending
  | [] => ⟨document, done.reverse, 0⟩
  | none :: _ => ⟨document, (unreadable :: done).reverse, 1⟩
  | some line :: lines =>
    match runLine document line with
    | (document, events, true) => runScriptOnto (events.reverse ++ done) document lines
    | (document, events, false) => ⟨document, (events.reverse ++ done).reverse, 0⟩

def runScript (document : Document) (lines : List (Option String)) : Ending :=
  runScriptOnto [] document lines

end FormulaGrid
