/-!
# Commands

What the program can be asked to do.
-/

namespace Workspaces

inductive TagCommand where
  | new (name : String)
  | list
  | add (workspace tag : String)
  /-- Shows the workspaces of a tag or the tags of a workspace; one of the two is to be named. -/
  | display (tag workspace : Option String)
deriving DecidableEq, Repr

inductive Command where
  /-- Remembers the current directory. -/
  | new (name description : String)
  | list
  | go (workspace : String) (variant : Option String)
  | script (workspace : String) (variant : Option String)
  | check (workspace : String)
  | tags (command : TagCommand)
deriving DecidableEq, Repr

end Workspaces
