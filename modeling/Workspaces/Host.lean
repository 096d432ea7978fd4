import Workspaces.Instant
import Workspaces.Fault
import Workspaces.Log
import Workspaces.Notice
import Workspaces.Path

/-!
# What the program needs of the system

The program is written once for every monad that can do what is asked for
here: look at the environment and the clock, read and write files, print, and
hand over to a shell.  An operation on files answers with a fault if it fails.
-/

namespace Workspaces

/-- An interactive shell that is to take the place of the program. -/
structure Invocation where
  shell : String
  /-- The script that the shell reads first. -/
  script : Path
  /-- The directory that the shell starts in. -/
  directory : Path
deriving DecidableEq, Repr

/-- Why there is no script for a shell to read. -/
inductive ScriptFault where
  /-- No file could be made at the path. -/
  | notCreated (path : Path) (fault : Fault)
  /-- The text could not be written to the file, which is gone again. -/
  | notWritten (path : Path) (fault : Fault)
  /-- The file could not be kept for the shell. -/
  | notKept (path : Path) (fault : Fault)
deriving DecidableEq, Repr

class Host (m : Type → Type) where
  /-- The value of an environment variable. -/
  lookup : String → m (Option String)
  /-- The home directory that the system has on record for the user's account. -/
  accountHome : m (Option String)
  currentDirectory : m (Except Fault Path)
  now : m Instant
  /-- Whether a path leads to anything. -/
  contains : Path → m Bool
  /-- Whether a path leads to a file, and not to something else. -/
  isFile : Path → m (Except Fault Bool)
  readText : Path → m (Except Fault String)
  writeText : Path → String → m (Except Fault Unit)
  /-- Makes a directory and those on the way to it. -/
  makeDirectories : Path → m (Except Fault Unit)
  /-- Writes a text to a new file in a directory and tells its path. -/
  createScript : Path → String → m (Except ScriptFault Path)
  /-- Whether a terminal shows what is written to a channel. -/
  isTerminal : Channel → m Bool
  print : Channel → String → m Unit
  log : LogEntry → m Unit
  /-- Hands over to a shell.  After a success the program has ended. -/
  handOver : Invocation → m (Except Fault Unit)

/-- What can be done on a host can be done in a run that may fail. -/
instance [Monad m] [Host m] : Host (ExceptT ε m) where
  lookup name := ExceptT.lift (Host.lookup name)
  accountHome := ExceptT.lift Host.accountHome
  currentDirectory := ExceptT.lift Host.currentDirectory
  now := ExceptT.lift Host.now
  contains path := ExceptT.lift (Host.contains path)
  isFile path := ExceptT.lift (Host.isFile path)
  readText path := ExceptT.lift (Host.readText path)
  writeText path text := ExceptT.lift (Host.writeText path text)
  makeDirectories path := ExceptT.lift (Host.makeDirectories path)
  createScript directory text := ExceptT.lift (Host.createScript directory text)
  isTerminal channel := ExceptT.lift (Host.isTerminal channel)
  print channel text := ExceptT.lift (Host.print channel text)
  log entry := ExceptT.lift (Host.log entry)
  handOver invocation := ExceptT.lift (Host.handOver invocation)

namespace Invocation

def program (invocation : Invocation) : Path := .ofText invocation.shell

/-- The words after the name of the program. -/
def arguments (invocation : Invocation) : List Path :=
  [.ofText "--init-file", invocation.script, .ofText "-i"]

/-- Whether a word of the invocation cannot be passed on. -/
def hasNul (invocation : Invocation) : Bool :=
  invocation.program.hasNul || invocation.arguments.any Path.hasNul || invocation.directory.hasNul

end Invocation

end Workspaces
