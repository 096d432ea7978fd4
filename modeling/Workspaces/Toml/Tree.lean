import Workspaces.Toml.Value

/-!
# Adding to tables

The lines of a document say one after the other what a table holds.  A key is
given one value only, and what a table was made by decides whether a later line
may add to it: a dotted key adds to tables that dotted keys made, a header to
those that are not complete values.
-/

namespace Workspaces.Toml

/-- A key: the names of the tables it goes through and its last name. -/
structure Key where
  tables : List String
  name : String
deriving DecidableEq, Repr

/-- Gives the key that is there a new value. -/
def replace (key : String) (value : Value) : Entries → Entries
  | [] => []
  | entry :: entries =>
    if entry.1 = key then (key, value) :: entries else entry :: replace key value entries

/-- Adds an entry under a new key. -/
def addNew (key : String) (value : Value) (entries : Entries) : Option Entries :=
  if (entries.lookup key).isSome then none else some (entries ++ [(key, value)])

/-- Adds a value under a name in the table that `tables` lead to from a table made
in the given way; tables that are missing are made. -/
def addDotted (kind : TableKind) (name : String) (value : Value) :
    List String → Entries → Option Entries
  | [], entries => if kind = .dotted then addNew name value entries else none
  | table :: tables, entries =>
    match entries.lookup table with
    | none => (addDotted .dotted name value tables []).map fun inner =>
        entries ++ [(table, .table .dotted inner)]
    | some (.table inner old) =>
      if inner = .implied ∨ inner = .dotted then
        (addDotted inner name value tables old).map fun new =>
          replace table (.table inner new) entries
      else none
    | some (.array true items) =>
      match items.getLast? with
      | some (.table inner old) =>
        (addDotted inner name value tables old).map fun new =>
          replace table (.array true (items.dropLast ++ [.table inner new])) entries
      | _ => none
    | some _ => none

/-- Adds a value to the table that a header or a brace began. -/
def addPair (key : Key) (value : Value) (entries : Entries) : Option Entries :=
  if key.tables = [] then addNew key.name value entries
  else addDotted .header key.name value key.tables entries

/-- Changes the table that a path leads to; tables that are missing are made.  A path
goes on in the last table of an array of tables. -/
def descend (change : Entries → Option Entries) : List String → Entries → Option Entries
  | [], entries => change entries
  | table :: tables, entries =>
    match entries.lookup table with
    | none => (descend change tables []).map fun inner =>
        entries ++ [(table, .table .implied inner)]
    | some (.table kind old) =>
      if kind = .inline then none
      else (descend change tables old).map fun new => replace table (.table kind new) entries
    | some (.array true items) =>
      match items.getLast? with
      | some (.table kind old) =>
        (descend change tables old).map fun new =>
          replace table (.array true (items.dropLast ++ [.table kind new])) entries
      | _ => none
    | some _ => none

/-- Begins the table of a header under its last name. -/
def beginTable (name : String) (entries : Entries) : Option Entries :=
  match entries.lookup name with
  | none => some (entries ++ [(name, .table .header [])])
  | some (.table .implied old) => some (replace name (.table .header old) entries)
  | some _ => none

/-- Begins a new table at the end of an array of tables. -/
def beginArrayTable (name : String) (entries : Entries) : Option Entries :=
  match entries.lookup name with
  | none => some (entries ++ [(name, .array true [.table .header []])])
  | some (.array true items) =>
    some (replace name (.array true (items ++ [.table .header []])) entries)
  | some _ => none

end Workspaces.Toml
