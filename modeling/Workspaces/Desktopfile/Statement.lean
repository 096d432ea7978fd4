import Workspaces.Desktopfile.Position

/-!
# Statements of a Desktopfile

A Desktopfile declares variants of a configuration.  A variant has a name and a
body of statements, and a statement may hold a body of its own, which counts
only on the systems that it names.
-/

namespace Workspaces.Desktopfile

/-- Every statement keeps the position of its first word. -/
inductive Statement where
  | setVariable (position : Position) (name value : String)
  | setAlias (position : Position) (name expansion : String)
  /-- Prints a text when the shell starts. -/
  | echo (position : Position) (text : String)
  /-- Runs a command when the shell starts. -/
  | command (position : Position) (text : String)
  /-- Statements for the systems that one of the tags names. -/
  | onSystems (position : Position) (tags : List String) (body : List Statement)
deriving Repr

def Statement.position : Statement → Position
  | setVariable position _ _ => position
  | setAlias position _ _ => position
  | echo position _ => position
  | command position _ => position
  | onSystems position _ _ => position

structure Variant where
  position : Position
  name : String
  body : List Statement
deriving Repr

structure Document where
  variants : List Variant
deriving Repr

end Workspaces.Desktopfile
