import Workspaces.Session

/-!
# Starting a workspace

A workspace is started by activating a variant of it.  The script of the
variant can also be printed, and all variants can be checked, without starting
anything; neither changes a file.
-/

namespace Workspaces

def activatingEntry (activation : Activation) : LogEntry :=
  ⟨.info, "desktop::commands::go", "activating",
    [("workspace", activation.workspace), ("variant", activation.variant)]⟩

def activatingNotice (activation : Activation) : Notice :=
  .success "Activating"
    ("configuration " ++ activation.variant ++ " in workspace " ++ activation.workspace)

/-- What a configuration holds, as a row. -/
def Configuration.row (name : String) (configuration : Configuration) : Notice :=
  .listing name
    (toString configuration.exports.size ++ " variable(s), " ++
      toString configuration.aliases.size ++ " alias(es), " ++
      toString configuration.commands.length ++ " command(s) on " ++ Platform.host.name)

def noDesktopfileNotice (directory : Path) : Notice :=
  .info ("No " ++ desktopfileName.shown ++ " in " ++ directory.shown ++
    "; activation uses an empty configuration.")

def noConfigurationsNotice (desktopfile : Path) : Notice :=
  .warning (desktopfile.shown ++ " declares no configurations")

def validNotice (desktopfile : Path) : Notice :=
  .success "Check" (desktopfile.shown ++ " is valid")

namespace Session

/-- Prepares a variant of a workspace, or the variant that is meant if none is named. -/
def prepare [Monad m] [Host m] (session : Session) (name : String) (variant : Option String) :
    ExceptT Failure m Activation := do
  let workspace ← session.workspace name
  ExceptT.adapt .activation
    (Activation.prepare .host workspace.name workspace.path (session.variantOr variant))

/-- Notes that a prepared workspace is used, and starts it.  It counts as used also if
the shell does not start. -/
def activate [Monad m] [Host m] (session : Session) (activation : Activation) :
    ExceptT Failure m Unit := do
  session.save (session.store.touch (← Host.now) activation.workspace)
  (activatingNotice activation).tell
  Host.log (activatingEntry activation)
  let scripts ← scriptDirectory
  ExceptT.adapt .launch
    (launch session.settings.shell scripts activation.script activation.directory)

def go [Monad m] [Host m] (session : Session) (name : String) (variant : Option String) :
    ExceptT Failure m Unit := do
  session.activate (← session.prepare name variant)

/-- Prints the script that would be started. -/
def printScript [Monad m] [Host m] (session : Session) (name : String)
    (variant : Option String) : ExceptT Failure m Unit := do
  let activation ← session.prepare name variant
  Host.print .output activation.script.text

/-- Evaluates all that the Desktopfile of a workspace declares. -/
def check [Monad m] [Host m] (session : Session) (name : String) : ExceptT Failure m Unit := do
  let workspace ← session.workspace name
  match ← ExceptT.adapt .activation (loadEnvironment .host workspace.path) with
  | none => (noDesktopfileNotice workspace.path).tell
  | some (desktopfile, environment) =>
    if environment.isEmpty then (noConfigurationsNotice desktopfile).tell
    else do
      environment.toList.forM fun entry => (entry.2.row entry.1).tell
      (validNotice desktopfile).tell

end Session

end Workspaces
