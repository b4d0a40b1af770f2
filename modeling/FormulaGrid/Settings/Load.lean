import FormulaGrid.Settings.Decode

/-!
# Settings files

* `FileState`       what is found at the path of a file;
* `LoadError`       why a file is ignored;
* `Warning`         what is reported about a file;
* `readSettings`    the settings in the bytes of a file;
* `loadSettings`    the settings of a file, or the default ones and a warning;
* `loadSettingsWith`  the same for any way to read settings from a text.

The settings that are loaded are always valid.  What the warning says about a fault in the text is
up to the caller, who passes its wording as `describe`.
-/

namespace FormulaGrid

/-- the largest settings file that is read, in bytes -/
def maxFileSize : Nat := 1048576

/-- what is found at the path of a file -/
inductive FileState where
  | missing
  /-- it is there and cannot be read, for a reason that the system gives -/
  | unreadable (reason : String)
  | readable (bytes : ByteArray)

/-- a file that can be read if it is there, told by its bytes -/
instance : Coe (Option ByteArray) FileState where
  coe
    | none => .missing
    | some bytes => .readable bytes

inductive LoadError where
  | unreadable (reason : String)
  | tooLarge (size : Nat)
  | notUtf8
  | toml (cause : TomlError)
  | settings (cause : SettingsError)
  deriving DecidableEq, Repr

inductive Warning where
  | notFound (path : String)
  | ignored (path : String) (cause : LoadError)
  deriving DecidableEq, Repr

def LoadError.message (describe : TomlError → String) (path : String) : LoadError → String
  | .unreadable reason => "IO error: " ++ reason
  | .tooLarge size =>
    s!"Config error in {path}: file too large ({size} bytes, max {maxFileSize})"
  | .notUtf8 => "IO error: stream did not contain valid UTF-8"
  | .toml cause => s!"Config error in {path}: " ++ describe cause
  | .settings cause => cause.message

/-- the wording of a warning -/
def Warning.message (describe : TomlError → String) : Warning → String
  | .notFound path => "Config file not found: " ++ path
  | .ignored path cause => s!"Ignoring {path}: " ++ cause.message describe path

/-- the settings in the bytes of a file; `ofText` reads them from its text -/
def readSettings (ofText : String → Except TomlError Settings) (bytes : ByteArray) :
    Except LoadError Settings :=
  if maxFileSize < bytes.size then .error (.tooLarge bytes.size)
  else
    match String.fromUTF8? bytes with
    | none => .error .notUtf8
    | some text =>
      match ofText text with
      | .error cause => .error (.toml cause)
      | .ok settings =>
        match settings.validate with
        | .error cause => .error (.settings cause)
        | .ok () => .ok settings

/-- the settings of the file that is found at a path;
    a missing file is worth a warning only if it was asked for -/
def loadSettingsWith (ofText : String → Except TomlError Settings) (path : String) (asked : Bool)
    (file : FileState) : Settings × Option Warning :=
  match file with
  | .missing => ({}, if asked then some (.notFound path) else none)
  | .unreadable reason => ({}, some (.ignored path (.unreadable reason)))
  | .readable bytes =>
    match readSettings ofText bytes with
    | .ok settings => (settings, none)
    | .error cause => ({}, some (.ignored path cause))

/-- the settings of a file in TOML -/
def loadSettings (path : String) (asked : Bool) (file : FileState) :
    Settings × Option Warning :=
  loadSettingsWith Settings.ofToml path asked file

end FormulaGrid
