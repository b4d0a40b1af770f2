/-!
# TOML values and tables

* `Value`           a value; a table keeps its entries in the order in which they were made;
* `Table.insert`    an entry under a dotted key;
* `Table.within`    a change of the table that a header names.

How a table came about decides what may still be added to it.  A dotted key adds to tables that
dotted keys or deeper headers have made, a header to any table but an inline one; and under a key
that names an array of tables, both add to its last table.
-/

namespace FormulaGrid.Toml

/-- how a table came about -/
inductive TableKind where
  /-- by a header of its own -/
  | header
  /-- as a part of the path in a header -/
  | implied
  /-- as a part of a dotted key -/
  | dotted
  /-- in braces -/
  | inline
  deriving DecidableEq, Repr

inductive Value where
  | string (s : String)
  | integer (n : Int)
  | float (x : Float)
  | boolean (b : Bool)
  | datetime
  | array (items : List Value)
  | table (kind : TableKind) (entries : List (String × Value))
  | tables (items : List (List (String × Value)))

/-- keys and their values, in order -/
abbrev Table := List (String × Value)

def Table.replace (table : Table) (key : String) (value : Value) : Table :=
  table.map fun entry => if entry.1 = key then (key, value) else entry

def Table.remove (table : Table) (key : String) : Table := table.filter fun entry => entry.1 != key

/-- a change of the last item of a list -/
def changeLast (change : Table → Option Table) (items : List Table) : Option (List Table) :=
  match items.reverse with
  | [] => none
  | last :: before => (change last).map fun last => (last :: before).reverse

/-- an entry under a dotted key, whose parts before the last are `path` -/
def Table.insert (key : String) (value : Value) : (path : List String) → Table → Option Table
  | [], table => if (table.lookup key).isSome then none else some (table ++ [(key, value)])
  | k :: ks, table =>
    match table.lookup k with
    | none => (Table.insert key value ks []).map fun inner => table ++ [(k, .table .dotted inner)]
    | some (.table kind inner) =>
      if kind = .dotted ∨ kind = .implied ∧ !ks.isEmpty then
        (Table.insert key value ks inner).map fun inner => table.replace k (.table kind inner)
      else none
    | some (.tables items) =>
      if ks.isEmpty then none
      else (changeLast (Table.insert key value ks) items).map fun items =>
        table.replace k (.tables items)
    | some _ => none

/-- a change of the table at a path; the parts of the path that are missing are made -/
def Table.within (change : Table → Option Table) : (path : List String) → Table → Option Table
  | [], table => change table
  | k :: ks, table =>
    match table.lookup k with
    | none => (Table.within change ks []).map fun inner => table ++ [(k, .table .implied inner)]
    | some (.table kind inner) =>
      if kind = .inline then none
      else (Table.within change ks inner).map fun inner => table.replace k (.table kind inner)
    | some (.tables items) =>
      (changeLast (Table.within change ks) items).map fun items => table.replace k (.tables items)
    | some _ => none

/-- an entry as it stands in a document: its dotted key and its value -/
structure Entry where
  path : List String
  key : String
  value : Value

/-- entries one after the other -/
def Table.insertAll (entries : List Entry) (table : Table) : Option Table :=
  entries.foldlM (fun table entry => Table.insert entry.key entry.value entry.path table) table

end FormulaGrid.Toml
