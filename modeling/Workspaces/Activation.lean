import Workspaces.Environment
import Workspaces.Host
import Workspaces.Script

/-!
# Activations

To activate a variant of a workspace is to evaluate the Desktopfile in its
directory and to render the variant as a script.  A directory without a
Desktopfile has an empty configuration under every name.  Nothing is written.
-/

namespace Workspaces

open Desktopfile

def desktopfileName : Path := .ofText "Desktopfile"

inductive ActivationError where
  | missingVariant (variant : String) (desktopfile : Path)
  | unreadable (desktopfile : Path) (fault : Fault)
  | invalid (error : SourceError)
deriving DecidableEq, Repr

def ActivationError.message : ActivationError → String
  | missingVariant variant desktopfile =>
    "no configuration named \"" ++ variant ++ "\" in " ++ desktopfile.shown
  | unreadable desktopfile _ => "failed to read " ++ desktopfile.shown
  | invalid error => error.message

/-- A list of texts in quotes, between brackets. -/
def quotedList (texts : List String) : String :=
  "[" ++ ", ".intercalate (texts.map quotedText) ++ "]"

/-- What the log says of a remark. -/
def Remark.logEntry (platform : Platform) : Remark → LogEntry
  | skippedBlock tags =>
    ⟨.debug, "desktop::environment", "skipping os block",
      [("tags", quotedList tags), ("os", platform.name)]⟩
  | redeclaredVariant name =>
    ⟨.debug, "desktop::environment", "variant redeclared, keeping the later one",
      [("variant", name)]⟩

def evaluatedEntry (desktopfile : Path) (environment : Environment) : LogEntry :=
  ⟨.debug, "desktop::activate", "evaluated Desktopfile",
    [("path", desktopfile.shown), ("variants", toString environment.size)]⟩

def noDesktopfileEntry (directory : Path) : LogEntry :=
  ⟨.debug, "desktop::activate", "no Desktopfile, using an empty configuration",
    [("dir", directory.shown)]⟩

/-- The environment of the Desktopfile in a directory and the path of that file,
if there is one. -/
def loadEnvironment [Monad m] [Host m] (platform : Platform) (directory : Path) :
    ExceptT ActivationError m (Option (Path × Environment)) := do
  let path := directory.join desktopfileName
  match ← Host.isFile path with
  | .error .notFound => return none
  | .error fault => throw (.unreadable path fault)
  | .ok false => return none
  | .ok true =>
    match ← Host.readText path with
    | .error fault => throw (.unreadable path fault)
    | .ok source =>
      (Remark.ofSource platform source).forM fun remark => Host.log (remark.logEntry platform)
      match Environment.evaluate platform path.shown source with
      | .error error => throw (.invalid error)
      | .ok environment =>
        Host.log (evaluatedEntry path environment)
        return some (path, environment)

/-- A variant of a workspace that is ready to start. -/
structure Activation where
  workspace : String
  variant : String
  directory : Path
  configuration : Configuration
deriving DecidableEq

namespace Activation

def script (activation : Activation) : Script :=
  .render activation.configuration activation.workspace activation.variant

def prepare [Monad m] [Host m] (platform : Platform) (workspace : String) (directory : Path)
    (variant : String) : ExceptT ActivationError m Activation := do
  match ← loadEnvironment platform directory with
  | none =>
    Host.log (noDesktopfileEntry directory)
    return ⟨workspace, variant, directory, .empty⟩
  | some (desktopfile, environment) =>
    match environment.get? variant with
    | none => throw (.missingVariant variant desktopfile)
    | some configuration => return ⟨workspace, variant, directory, configuration⟩

end Activation

end Workspaces
