import Workspaces.Host
import Workspaces.Store.Form

/-!
# The store file

A store that has never been saved is empty.  Saving makes the directories on
the way to the file, and writes nothing if the store has no written form.
-/

namespace Workspaces.Store

def load [Monad m] [Host m] (path : Path) : ExceptT StoreError m Store := do
  if ← Host.contains path then
    match ← Host.readText path with
    | .error fault => throw (.unreadable path fault)
    | .ok text =>
      match ofText? text with
      | none => throw (.malformed path)
      | some store => return store
  else return .empty

def makeParent [Monad m] [Host m] (path : Path) : ExceptT StoreError m Unit := do
  match path.parent? with
  | none => return ()
  | some parent =>
    match ← Host.makeDirectories parent with
    | .error fault => throw (.unwritable path fault)
    | .ok () => return ()

def save [Monad m] [Host m] (store : Store) (path : Path) : ExceptT StoreError m Unit := do
  makeParent path
  match store.text? with
  | none => throw .pathNotText
  | some text =>
    match ← Host.writeText path text with
    | .error fault => throw (.unwritable path fault)
    | .ok () => return ()

end Workspaces.Store
