import NamedFunctions.Toml.Item

/-! # Adding to tables

Documents are read into one table, to which every line adds. A table may be defined once, by its
header or by dotted keys; dotted keys never add to a table that has a header of its own, though they
may lead through the last table of an array, and nothing adds to what stands between braces or
brackets. -/
namespace NamedFunctions.Toml

structure Table where
  origin : TableOrigin
  entries : List (String × Item) := []

namespace Table

def toItem (table : Table) : Item :=
  .table table.origin table.entries

/-- Replaces the entry of a key where it stands, or adds it at the end. -/
def put (table : Table) (key : String) (item : Item) : Table :=
  if table.entries.any (·.1 == key) then
    { table with entries := table.entries.map fun entry => if entry.1 == key then (key, item) else entry }
  else { table with entries := table.entries ++ [(key, item)] }

/-- Adds an entry under a key that is not there yet. -/
def addNew (table : Table) (key : String) (item : Item) : Option Table :=
  match table.entries.lookup key with
  | some _ => none
  | none => some (table.put key item)

/-- How a table is defined once a path has led through it. A header leads through any table that is
not closed and leaves it as it is. Dotted keys define the tables that they lead through, so none of
these may have a header. -/
def passed? (dotted : Bool) : TableOrigin → Option TableOrigin
  | .braces => none
  | .header => if dotted then none else some .header
  | .implied => some (if dotted then .dotted else .implied)
  | .dotted => some .dotted

/-- Changes the table at the end of a path. Missing tables are made on the way; an array made by
headers stands for its last table. -/
def change (dotted : Bool) (f : Table → Option Table) : List String → Table → Option Table
  | [], table => f table
  | key :: path, table =>
    match table.entries.lookup key with
    | none => do
      let child ← change dotted f path { origin := if dotted then .dotted else .implied }
      return table.put key child.toItem
    | some (.table origin entries) => do
      let child ← change dotted f path { origin := ← passed? dotted origin, entries }
      return table.put key child.toItem
    | some (.array .headers items) =>
      match items.reverse with
      | .table origin entries :: before => do
        let child ← change dotted f path { origin, entries }
        return table.put key (.array .headers (before.reverse ++ [child.toItem]))
      | _ => none
    | some _ => none

/-- Adds a key with its value; all keys but the last of a dotted key name tables. What a dotted key
adds to has to be a table that dotted keys define. -/
def addKey (path : List String) (key : String) (item : Item) (table : Table) : Option Table :=
  change true (fun parent =>
    if path ≠ [] ∧ parent.origin ≠ .dotted then none else parent.addNew key item) path table

/-- Opens the table of a header. A table that was only implied so far becomes defined. -/
def openTable (path : List String) (key : String) (table : Table) : Option Table :=
  change false (fun parent =>
    match parent.entries.lookup key with
    | none => some (parent.put key (.table .header []))
    | some (.table .implied entries) => some (parent.put key (.table .header entries))
    | some _ => none) path table

/-- Opens one more table in the array of a header. -/
def openArray (path : List String) (key : String) (table : Table) : Option Table :=
  change false (fun parent =>
    match parent.entries.lookup key with
    | none => some (parent.put key (.array .headers [.table .header []]))
    | some (.array .headers items) =>
      some (parent.put key (.array .headers (items ++ [.table .header []])))
    | some _ => none) path table

end Table

end NamedFunctions.Toml
