import Workspaces.Settings.Locations
import Workspaces.Store.Saved

/-!
# Sessions

A command runs in a session: the settings of the user, the store as it was
found, and the file that it is saved in.
-/

namespace Workspaces

structure Session where
  settings : Settings
  store : Store
  storeFile : Path

namespace Session

/-- Finds the settings and the store. -/
def start [Monad m] [Host m] : ExceptT Failure m Session := do
  let settings ← Settings.loadDefault
  let storeFile ← settings.storeFile
  let store ← ExceptT.adapt (.storeNotOpened storeFile) (Store.load storeFile)
  return ⟨settings, store, storeFile⟩

/-- Saves the store that an operation leaves.  One that failed saves nothing. -/
def save [Monad m] [Host m] (session : Session) (changed : Except StoreError α × Store) :
    ExceptT Failure m Unit :=
  match changed.1 with
  | .error error => throw (.store error)
  | .ok _ =>
    ExceptT.adapt (.storeNotSaved session.storeFile) (changed.2.save session.storeFile)

/-- The workspace of a name. -/
def workspace [Monad m] (session : Session) (name : String) : ExceptT Failure m Workspace :=
  match session.store.find? name with
  | none => throw (.missingWorkspace name)
  | some workspace => return workspace

/-- The variant to activate, if one may be named. -/
def variantOr (session : Session) (variant : Option String) : String :=
  variant.getD session.settings.defaultVariant

end Session

/-- Whether labels are coloured on a channel: a terminal shows it, and the user has not asked
for plain text. -/
def supportsColor [Monad m] [Host m] (channel : Channel) : m Bool := do
  if ← Host.isTerminal channel then return (← Host.lookup "NO_COLOR").isNone
  else return false

/-- Tells the user something. -/
def Notice.tell [Monad m] [Host m] (notice : Notice) : m Unit := do
  let colored ← supportsColor notice.kind.channel
  Host.print notice.kind.channel (notice.textIn colored)

end Workspaces
