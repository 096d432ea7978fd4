import Workspaces.Host
import Workspaces.Script
import Workspaces.Text.Escaped

/-!
# Starting a shell

The script is written to a new file, which stays for the shell to read, and
then the shell takes the place of the program.  If the script cannot be written,
no file stays.
-/

namespace Workspaces

inductive LaunchError where
  /-- No script could be made at `path` in `directory`. -/
  | scriptNotCreated (directory path : Path) (fault : Fault)
  | scriptNotWritten (path : Path) (fault : Fault)
  | scriptNotKept (path : Path) (fault : Fault)
  | notStarted (shell : String) (fault : Fault)
deriving DecidableEq, Repr

def LaunchError.message : LaunchError → String
  | scriptNotCreated directory _ _ => "failed to create init script in " ++ directory.shown
  | scriptNotWritten path _ => "failed to write init script " ++ path.shown
  | scriptNotKept path _ => "failed to persist init script " ++ path.shown
  | notStarted shell _ => "failed to launch shell " ++ quotedText shell

/-- The directory for files that are soon out of use. -/
def scriptDirectory [Monad m] [Host m] : m Path := do
  match ← Host.lookup "TMPDIR" with
  | some directory => return .ofText directory
  | none => return .ofText "/tmp"

/-- What could not be done with a script that was to be among `scripts`. -/
def LaunchError.ofScriptFault (scripts : Path) : ScriptFault → LaunchError
  | .notCreated path fault => scriptNotCreated scripts path fault
  | .notWritten path fault => scriptNotWritten path fault
  | .notKept path fault => scriptNotKept path fault

def writeScript [Monad m] [Host m] (scripts : Path) (script : Script) :
    ExceptT LaunchError m Path := do
  match ← Host.createScript scripts script.text with
  | .error fault => throw (.ofScriptFault scripts fault)
  | .ok path => return path

def scriptWrittenEntry (script : Path) (shell : String) : LogEntry :=
  ⟨.debug, "desktop::launcher", "init script written", [("script", script.shown), ("shell", shell)]⟩

def startingEntry (shell : String) (directory : Path) : LogEntry :=
  ⟨.info, "desktop::launcher", "starting " ++ shell, [("dir", directory.shown)]⟩

/-- Starts a shell in a directory from a script, which is written among `scripts`. -/
def launch [Monad m] [Host m] (shell : String) (scripts : Path) (script : Script)
    (directory : Path) : ExceptT LaunchError m Unit := do
  let path ← writeScript scripts script
  Host.log (scriptWrittenEntry path shell)
  Host.log (startingEntry shell directory)
  match ← Host.handOver ⟨shell, path, directory⟩ with
  | .error fault => throw (.notStarted shell fault)
  | .ok () => return ()

end Workspaces
