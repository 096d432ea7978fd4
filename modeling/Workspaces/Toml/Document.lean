import Workspaces.Toml.Reader

/-!
# TOML documents

The lines of a document are taken one after the other.  A header says which
table the pairs after it belong to.  A document that breaks a rule has no
meaning at all.
-/

namespace Workspaces.Toml

/-- A document as far as it has been read. -/
structure Draft where
  /-- The names that lead to the table of the last header. -/
  table : List String
  entries : Entries

def Draft.empty : Draft := ⟨[], []⟩

def Draft.add (draft : Draft) : Line → Option Draft
  | .pair key value =>
    (descend (addPair key value) draft.table draft.entries).map fun entries =>
      ⟨draft.table, entries⟩
  | .header key =>
    (descend (beginTable key.name) key.tables draft.entries).map fun entries =>
      ⟨key.tables ++ [key.name], entries⟩
  | .arrayHeader key =>
    (descend (beginArrayTable key.name) key.tables draft.entries).map fun entries =>
      ⟨key.tables ++ [key.name], entries⟩

/-- The entries that the lines say. -/
def ofLines (lines : List Line) : Option Entries :=
  (lines.foldlM Draft.add Draft.empty).map Draft.entries

/-- A mark that some editors put before the first character. -/
def byteOrderMark : Char := '\ufeff'

def skipMark : List Char → List Char
  | [] => []
  | c :: text => if c = byteOrderMark then text else c :: text

/-- The entries of a document. -/
def parse (text : String) : Option Entries :=
  (readLines (skipMark text.toList)).bind ofLines

/-! ## Looking into values -/

namespace Value

def string? : Value → Option String
  | string text => some text
  | _ => none

def integer? : Value → Option Int
  | integer value => some value
  | _ => none

def items? : Value → Option (List Value)
  | array _ items => some items
  | _ => none

/-- The strings of an array that holds nothing else. -/
def strings? (value : Value) : Option (List String) :=
  value.items?.bind fun items => items.mapM string?

/-- The values of a record by the names of its fields.  A record is a table, or an
array that holds the values in the order of the fields. -/
def fields? (names : List String) : Value → Option Entries
  | table _ entries => some entries
  | array _ items => some (names.zip items)
  | _ => none

end Value

end Workspaces.Toml
