import Workspaces.Settings
import Workspaces.Settings.Expansion

/-!
# Where settings and the store are kept

Settings are kept under the user's directory for configuration and the store
under the one for state.  The environment names both; they have their usual
places in the home directory otherwise.
-/

namespace Workspaces

def applicationName : Path := .ofText "desktop"

/-- The directory that a variable names, or a place in the home directory. -/
def userDirectory [Monad m] [Host m] (key inHome : String) : ExceptT Failure m Path := do
  match ← Host.lookup key with
  | some directory =>
    if directory.isEmpty then inHomeDirectory else return .ofText directory
  | none => inHomeDirectory
where
  inHomeDirectory : ExceptT Failure m Path := do
    match ← homeDirectory? with
    | none => throw .noHome
    | some home => return (Path.ofText home).join (.ofText inHome)

def settingsDirectory [Monad m] [Host m] : ExceptT Failure m Path := do
  return (← userDirectory "XDG_CONFIG_HOME" ".config").join applicationName

def stateDirectory [Monad m] [Host m] : ExceptT Failure m Path := do
  return (← userDirectory "XDG_STATE_HOME" ".local/state").join applicationName

def settingsFile [Monad m] [Host m] : ExceptT Failure m Path := do
  return (← settingsDirectory).join (.ofText "config.toml")

namespace Settings

/-- The settings of the user. -/
def loadDefault [Monad m] [Host m] : ExceptT Failure m Settings := do
  load (← settingsFile)

/-- Where the store is kept. -/
def storeFile [Monad m] [Host m] (settings : Settings) : ExceptT Failure m Path := do
  match settings.storePath with
  | none => return (← stateDirectory).join (.ofText "desktop.toml")
  | some path =>
    match ← (expandPath path).run with
    | .error name => throw (.storePathUnset path name)
    | .ok expanded => return .ofText expanded

end Settings

end Workspaces
