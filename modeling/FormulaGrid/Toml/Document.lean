import FormulaGrid.Toml.Moment
import FormulaGrid.Toml.Number
import FormulaGrid.Toml.Value

/-!
# TOML documents

* `value`       a value, with arrays and inline tables in each other to a limited depth;
* `Statement`   a line of a document that is not empty: an entry or a header;
* `Section`     a header with the entries below it;
* `parse?`      the table that a document describes.

A document is read line by line into statements, these are gathered into sections, and the sections
are put into the top table in order.  A table with a header of its own takes its place when its
section ends, behind the tables that were complete before.
-/

namespace FormulaGrid.Toml

/-! ## keys -/

/-- parts of paths, and values in each other, there are fewer than this -/
def maxDepth : Nat := 80

def isBareKey (c : Char) : Bool := c.isAlphanum || c == '_' || c == '-'

def simpleKey : Reader Char String :=
  .firstOf [basicString, literalString, (Reader.satisfy isBareKey).many1.map String.ofList]

def path : Reader Char (List String) :=
  (((spaces.skipThen simpleKey).before spaces).separated (.element '.')).filterMap fun keys =>
    if keys.length < maxDepth then some keys else none

/-! ## values -/

def scalar : Reader Char Value :=
  .firstOf [string.map .string, moment.map fun _ => .datetime, float.map .float,
    integer.map .integer,
    (Reader.elements 't' "rue".toList).map fun _ => .boolean true,
    (Reader.elements 'f' "alse".toList).map fun _ => .boolean false]

/-- values between brackets with commas between them, the last of which may be followed by one -/
def array (item : Reader Char Value) : Reader Char Value :=
  (Reader.element '[').skipThen <|
    (((gaps.skipThen item).before gaps).separated (.element ',')
      |>.before (Reader.element ',').optional |>.before gaps |>.followedBy (.element ']')).orElse
      ((gaps.skipThen (.element ']')).map fun _ => [])
    |>.map Value.array

def entry (item : Reader Char Value) : Reader Char Entry :=
  (path.followedBy (.element '=')).andThen fun keys =>
    (spaces.skipThen item).filterMap fun v => keys.getLast?.map fun key => ⟨keys.dropLast, key, v⟩

def inlineTable (item : Reader Char Value) : Reader Char Value :=
  (Reader.element '\x7b').skipThen <|
    ((((entry item).before spaces).separated (.element ',')).followedBy (.element '\x7d')).orElse
      ((spaces.skipThen (.element '\x7d')).map fun _ => [])
    |>.filterMap fun entries => (Table.insertAll entries []).map (Value.table .inline)

def value : (depth : Nat) → Reader Char Value
  | 0 => scalar
  | depth + 1 =>
    let inner := value depth
    .firstOf [scalar, array inner, inlineTable inner]

/-! ## statements -/

inductive Statement where
  | entry (entry : Entry)
  | table (path : List String)
  | tables (path : List String)

def statement : Reader Char Statement :=
  .firstOf [
    ((Reader.elements '[' ['[']).skipThen path).followedBy (.elements ']' [']']) |>.map .tables,
    ((Reader.element '[').skipThen path).followedBy (.element ']') |>.map .table,
    (Toml.entry (value (maxDepth - 1))).map .entry]

def line : Scan Char (Option Statement) :=
  spaces.andThen fun _ => statement.optional.andThen fun s =>
    spaces.andThen fun _ => comment.optional.map fun _ => s

/-- the statements of a document; a byte order mark in front of it is skipped -/
def statements : Scan Char (List Statement) :=
  (Reader.element (Char.ofNat 0xfeff)).optional.andThen fun _ => line.andThen fun first =>
    (newline.andScan fun _ => line).many.map fun others => (first :: others).filterMap id

/-! ## sections -/

inductive Place where
  | top
  | table (path : List String)
  | tables (path : List String)

/-- a place and entries for it -/
structure Section where
  place : Place
  entries : List Entry

/-- the sections of a list of statements, after those of `done`, which stand in reverse order;
    the entries of the open section stand in reverse order, too -/
def sectionsOnto (done : List Section) (place : Place) (entries : List Entry) :
    List Statement → List Section
  | [] => (⟨place, entries.reverse⟩ :: done).reverse
  | .entry e :: ss => sectionsOnto done place (e :: entries) ss
  | .table p :: ss => sectionsOnto (⟨place, entries.reverse⟩ :: done) (.table p) [] ss
  | .tables p :: ss => sectionsOnto (⟨place, entries.reverse⟩ :: done) (.tables p) [] ss

/-- the sections of a list of statements, the entries before the first header in front -/
def sections (ss : List Statement) : List Section := sectionsOnto [] .top [] ss

/-- a table under a key: a new one, or one that deeper headers have made before -/
def addTable (key : String) (entries : List Entry) (table : Table) : Option Table :=
  let started : Option Table :=
    match table.lookup key with
    | none => some []
    | some (.table .implied inner) => some inner
    | some _ => none
  started.bind fun inner => (Table.insertAll entries inner).map fun inner =>
    table.remove key ++ [(key, .table .header inner)]

/-- one more table in the array under a key -/
def addToTables (key : String) (entries : List Entry) (table : Table) : Option Table :=
  (Table.insertAll entries []).bind fun inner =>
    match table.lookup key with
    | none => some (table ++ [(key, .tables [inner])])
    | some (.tables items) => some (table.replace key (.tables (items ++ [inner])))
    | some _ => none

/-- a section put into the top table -/
def Section.addTo (table : Table) (s : Section) : Option Table :=
  match s.place with
  | .top => Table.insertAll s.entries table
  | .table path => path.getLast?.bind fun key =>
    Table.within (addTable key s.entries) path.dropLast table
  | .tables path => path.getLast?.bind fun key =>
    Table.within (addToTables key s.entries) path.dropLast table

def parse? (text : String) : Option Table :=
  (statements.all? text.toList).bind fun ss => (sections ss).foldlM Section.addTo []

end FormulaGrid.Toml
