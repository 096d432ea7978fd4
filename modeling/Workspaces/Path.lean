import Workspaces.Text.Split
import Workspaces.Text.Utf8

/-!
# Paths

A path is a text, possibly a broken one, in which slashes stand between names.
It is kept as it was written; only a walk through the files gives it a meaning.
-/

namespace Workspaces

structure Path where
  units : List TextUnit
deriving DecidableEq, Repr, Inhabited

namespace Path

/-- What stands between the slashes of a path. -/
abbrev Name := List TextUnit

def slash : TextUnit := .char '/'

def ofText (text : String) : Path := ⟨TextUnit.ofText text⟩

/-- The path as a text, if it is one. -/
def text? (path : Path) : Option String := TextUnit.text? path.units

@[simp] theorem text?_ofText (text : String) : (ofText text).text? = some text :=
  TextUnit.text?_ofText text

/-- The path as messages and listings show it. -/
def shown (path : Path) : String := TextUnit.shownText path.units

/-- The path between double quotes. -/
def quoted (path : Path) : String :=
  String.ofList ('"' :: path.units.flatMap TextUnit.escaped ++ ['"'])

def isEmpty (path : Path) : Bool := path.units.isEmpty

def byteCount (path : Path) : Nat := TextUnit.byteCountOf path.units

def hasNul (path : Path) : Bool := path.units.contains (.char '\x00')

def isAbsolute (path : Path) : Bool := path.units.head? = some slash

/-- `other` seen from the directory `path`; an absolute path is the same from everywhere. -/
def join (path other : Path) : Path :=
  if other.isAbsolute then other
  else if path.isEmpty ∨ path.units.getLast? = some slash then ⟨path.units ++ other.units⟩
  else ⟨path.units ++ slash :: other.units⟩

/-- What stands between the slashes, with the empty pieces. -/
def pieces (path : Path) : List Name := splitOn slash path.units

def here : Name := [.char '.']

def above : Name := [.char '.', .char '.']

/-- The pieces that name a step: neither empty nor a dot.  A relative path may begin with a dot. -/
def names (path : Path) : List Name :=
  match path.pieces with
  | [] => []
  | first :: others =>
    let others := others.filter fun piece => piece ≠ [] ∧ piece ≠ here
    if first = [] then others else first :: others

/-- The path that goes through the names, from the root if it is absolute. -/
def ofNames (absolute : Bool) (names : List Name) : Path :=
  let joined := joinWith [slash] names
  ⟨if absolute then slash :: joined else joined⟩

/-- The path without its last name, if it has one. -/
def parent? (path : Path) : Option Path :=
  if path.names = [] then none else some (ofNames path.isAbsolute path.names.dropLast)

end Path

end Workspaces
