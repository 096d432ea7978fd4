import Std.Time.DateTime.Timestamp
import Workspaces.Program

/-!
# The command line

The program on the system that it was started on.  All that is decided is
decided by the library; here the system is asked and told.
-/

namespace Workspaces

/-- A run on the system, with the filter of the log. -/
abbrev OnSystem := ReaderT LogFilter IO

namespace OnSystem

/-- The fault that stands behind an error code of the system. -/
def faultOfCode (code : UInt32) : Fault :=
  if code = 2 then .notFound
  else if code = 13 then .permissionDenied
  else if code = 17 then .alreadyExists
  else if code = 20 then .notADirectory
  else if code = 21 then .isADirectory
  else if code = 36 then .nameTooLong
  else if code = 40 then .tooManyLinks
  else .notSupported

def faultOf : IO.Error → Fault
  | .alreadyExists _ code _ => faultOfCode code
  | .noFileOrDirectory _ code _ => faultOfCode code
  | .invalidArgument _ code _ => faultOfCode code
  | .permissionDenied _ code _ => faultOfCode code
  | .inappropriateType _ code _ => faultOfCode code
  | .resourceExhausted _ code _ => faultOfCode code
  | .noSuchThing _ code _ => faultOfCode code
  | .otherError code _ => faultOfCode code
  | .userError _ => .notText
  | _ => .notSupported

/-- What the clock of the system says. -/
def systemTime : IO Instant := do
  let nanos := (← Std.Time.Timestamp.now).toNanosecondsSinceUnixEpoch.val
  return (Instant.ofUnix? (nanos / 1000000000) (nanos % 1000000000).toNat).getD .epoch

/-- Runs an action on a path, which has to be a text without NUL. -/
def onPath (path : Path) (action : String → IO α) : OnSystem (Except Fault α) := do
  match path.text? with
  | none => return .error .notSupported
  | some text =>
    if path.hasNul then return .error .nulInPath
    else
      try
        return .ok (← action text)
      catch error =>
        return .error (faultOf error)

/-- Makes a script under a random name, trying so many names. -/
def createScript (directory : Path) (text : String) :
    Nat → OnSystem (Except ScriptFault Path)
  | 0 => return .error (.notCreated directory .alreadyExists)
  | tries + 1 => do
    let number ← IO.rand 0 999999999
    let path := directory.join (.ofText ("desktop" ++ toString number ++ ".sh"))
    match ← onPath path fun file => IO.FS.Handle.mk file .writeNew with
    | .error .alreadyExists => createScript directory text tries
    | .error fault => return .error (.notCreated path fault)
    | .ok handle =>
      match ← onPath path fun _ => do handle.putStr text; handle.flush with
      | .ok () => return .ok path
      | .error fault =>
        discard (onPath path fun file => IO.FS.removeFile file)
        return .error (.notWritten path fault)

end OnSystem

open OnSystem in
/-- The system.  It cannot give up its process to a shell, and has no list of accounts. -/
instance : Host OnSystem where
  lookup name := IO.getEnv name
  accountHome := return none
  currentDirectory := do
    try
      return .ok (.ofText (toString (← IO.currentDir)))
    catch error =>
      return .error (faultOf error)
  now := systemTime
  contains path := do
    let found ← onPath path fun file => do
      discard ((← IO.currentDir) / file).metadata
    return found.isOk
  isFile path := onPath path fun file => do
    return (← ((← IO.currentDir) / file).metadata).type == .file
  readText path := onPath path fun file => IO.FS.readFile file
  writeText path text := onPath path fun file => IO.FS.writeFile file text
  makeDirectories path := onPath path fun file => IO.FS.createDirAll file
  createScript directory text := OnSystem.createScript directory text 100
  isTerminal channel := do
    match channel with
    | .output => (← IO.getStdout).isTty
    | .error => (← IO.getStderr).isTty
  print channel text := do
    match channel with
    | .output => (← IO.getStdout).putStr text
    | .error => (← IO.getStderr).putStr text
  log entry := do
    if (← read).keeps entry then
      (← IO.getStderr).putStrLn (entry.line (← systemTime).text)
  handOver _ := return .error .notSupported

end Workspaces

def main (words : List String) : IO UInt32 := do
  let filter ← (Workspaces.Program.logFilter words : Workspaces.OnSystem _).run ⟨[]⟩
  let ending ← (Workspaces.Program.run words : Workspaces.OnSystem _).run filter
  return ending.exitCode
