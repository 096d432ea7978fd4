/-!
# Positions in a source

A position is a line and a column, both counted from one.  Only a line feed
ends a line; every other character takes one column.
-/

namespace Workspaces

structure Position where
  line : Nat
  column : Nat
deriving DecidableEq, Repr, Inhabited

namespace Position

def start : Position := ⟨1, 1⟩

/-- The position after a character. -/
def advance (position : Position) (c : Char) : Position :=
  if c = '\n' then ⟨position.line + 1, 1⟩ else ⟨position.line, position.column + 1⟩

/-- The position after a text. -/
def after (position : Position) (text : List Char) : Position :=
  text.foldl advance position

def text (position : Position) : String :=
  toString position.line ++ ":" ++ toString position.column

@[simp] theorem after_nil (position : Position) : position.after [] = position := rfl

@[simp] theorem after_cons (position : Position) (c : Char) (text : List Char) :
    position.after (c :: text) = (position.advance c).after text := rfl

end Position

/-- A value with the position at which it begins. -/
structure Located (α : Type) where
  value : α
  position : Position
deriving DecidableEq, Repr

end Workspaces
