/-!
# Values of a TOML document

A document is a table.  Tables and arrays remember how they were written,
because that decides what later lines may add to them.  What is written like a
number may be none, or one that is too large to be held; only who looks at it
has to refuse it.
-/

namespace Workspaces.Toml

/-- How a table came to be. -/
inductive TableKind where
  /-- By a header of its own, or as the document itself. -/
  | header
  /-- On the way to another header. -/
  | implied
  /-- On the way of a dotted key. -/
  | dotted
  /-- As a value between braces; it is complete. -/
  | inline
deriving DecidableEq, Repr

inductive Value where
  | string (text : String)
  | integer (value : Int)
  /-- A number that is no integer, as it is written. -/
  | float (text : String)
  /-- What is written like a number and is none that can be held. -/
  | illegible (text : String)
  | boolean (value : Bool)
  /-- A date, a time or both, as it is written. -/
  | dateTime (text : String)
  /-- `ofTables` tells whether the array grows by headers in double brackets. -/
  | array (ofTables : Bool) (items : List Value)
  | table (kind : TableKind) (entries : List (String × Value))
deriving Repr

/-- The entries of a table, each key once, in the order of writing. -/
abbrev Entries := List (String × Value)

mutual

/-- Whether all that is written like a number in a value is one that can be held. -/
def Value.isLegible : Value → Bool
  | .illegible _ => false
  | .array _ items => areLegibleItems items
  | .table _ entries => areLegible entries
  | .string _ | .integer _ | .float _ | .boolean _ | .dateTime _ => true

def areLegibleItems : List Value → Bool
  | [] => true
  | item :: items => item.isLegible && areLegibleItems items

def areLegible : List (String × Value) → Bool
  | [] => true
  | (_, value) :: entries => value.isLegible && areLegible entries

end

end Workspaces.Toml
