import Workspaces.Activation
import Workspaces.Launch
import Workspaces.Store

/-!
# Failures of a command

A failure is told as a chain: what could not be done, and why, down to the
fault of the system that is behind it.
-/

namespace Workspaces

/-- A link in the chain of a failure. -/
inductive Cause where
  | message (text : String)
  /-- A fault of the system, with the path it is about if the fault names one. -/
  | fault (fault : Fault) (path : Option Path)
  /-- A text is no document of the expected form. -/
  | malformed
deriving DecidableEq, Repr

def Cause.text : Cause → String
  | message text => text
  | fault reason none => reason.message
  | fault reason (some path) => reason.message ++ " at path " ++ path.quoted
  | malformed => "TOML parse error"

inductive Failure where
  | noHome
  | settingsUnreadable (path : Path) (fault : Fault)
  | settingsMalformed (path : Path)
  /-- The path of the store names a variable that is not set. -/
  | storePathUnset (path : String) (name : String)
  | storeNotOpened (path : Path) (error : StoreError)
  | storeNotSaved (path : Path) (error : StoreError)
  | store (error : StoreError)
  | missingWorkspace (name : String)
  | workspaceExists (name : String) (path : Path)
  | noCurrentDirectory (fault : Fault)
  | desktopfileNotWritten (path : Path) (fault : Fault)
  | activation (error : ActivationError)
  | launch (error : LaunchError)
  /-- The tags of a workspace or the workspaces of a tag can be shown, not both. -/
  | notOneTarget
deriving DecidableEq, Repr

def StoreError.chain (error : StoreError) : List Cause :=
  .message error.message ::
    match error with
    | unreadable _ fault => [.fault fault none]
    | malformed _ => [.malformed]
    | unwritable _ fault => [.fault fault none]
    | _ => []

def ActivationError.chain (error : ActivationError) : List Cause :=
  .message error.message ::
    match error with
    | unreadable _ fault => [.fault fault none]
    | _ => []

def LaunchError.chain (error : LaunchError) : List Cause :=
  .message error.message ::
    match error with
    | scriptNotCreated _ path fault => [.fault fault (some path)]
    | scriptNotWritten path fault => [.fault fault (some path)]
    | scriptNotKept _ fault => [.fault fault none]
    | notStarted _ fault => [.fault fault none]

namespace Failure

def noVariable : String := "environment variable not found"

/-- The links of a failure, what could not be done first. -/
def chain : Failure → List Cause
  | noHome => [.message "Failed to get home directory"]
  | settingsUnreadable path fault =>
    [.message ("Failed to read config file " ++ path.quoted), .fault fault none]
  | settingsMalformed path =>
    [.message ("Failed to parse config file " ++ path.quoted), .malformed]
  | storePathUnset path name =>
    [.message ("Failed to expand store path " ++ quotedText path),
      .message ("error looking key '" ++ name ++ "' up: " ++ noVariable), .message noVariable]
  | storeNotOpened path error =>
    .message ("Failed to open workspace store " ++ path.quoted) :: error.chain
  | storeNotSaved path error =>
    .message ("Failed to save workspace store " ++ path.quoted) :: error.chain
  | store error => error.chain
  | missingWorkspace name => [.message ("no workspace named \"" ++ name ++ "\"")]
  | workspaceExists name path =>
    [.message ("A workspace named \"" ++ name ++ "\" already exists at " ++ path.shown)]
  | noCurrentDirectory fault =>
    [.message "Failed to determine the current directory", .fault fault none]
  | desktopfileNotWritten path fault =>
    [.message ("Failed to write " ++ path.quoted), .fault fault none]
  | activation error => error.chain
  | launch error => error.chain
  | notOneTarget => [.message "Exactly one of --tag or --workspace must be provided"]

/-- A text whose lines after the first are indented. -/
def hanging (indent : Nat) (text : String) : String :=
  let margin := List.replicate indent ' '
  String.ofList (joinWith ('\n' :: margin) (splitOn '\n' text.toList))

/-- A cause with its number, right-aligned in five columns. -/
def numberedCause (number : Nat) (text : String) : String :=
  let digits := toString number
  let margin := String.ofList (List.replicate (5 - digits.length) ' ')
  margin ++ digits ++ ": " ++ hanging 7 text ++ "\n"

/-- How a failure is told to the user. -/
def report (failure : Failure) : String :=
  match failure.chain.map Cause.text with
  | [] => ""
  | [message] => "Error: " ++ message ++ "\n"
  | [message, cause] =>
    "Error: " ++ message ++ "\n\nCaused by:\n    " ++ hanging 4 cause ++ "\n"
  | message :: causes =>
    "Error: " ++ message ++ "\n\nCaused by:\n" ++
      String.join (causes.zipIdx.map fun (cause, number) => numberedCause number cause)

end Failure

end Workspaces
