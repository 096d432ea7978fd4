import Workspaces.Command.Run

/-!
# The program

The program reads its command line, runs the command and tells a failure.  Its
exit code says whether the command succeeded, failed, or was never understood.
-/

namespace Workspaces

/-- How a run of the program ends. -/
inductive Ending where
  | completed
  | failed (failure : Failure)
  /-- The command line asks for no command. -/
  | declined (error : UsageError)
deriving DecidableEq, Repr

namespace Ending

def exitCode : Ending → UInt32
  | completed => 0
  | failed _ => 1
  | declined .help => 0
  | declined .version => 0
  | declined .invalid => 2

end Ending

namespace Program

def versionText : String := "desktop 0.1.0\n"

/-- A line for each command. -/
def usageText : String :=
  "Usage: desktop [-v] <command>\n\n" ++
    "  new <name> <description>             remember the current directory\n" ++
    "  list                                 list the workspaces\n" ++
    "  go <workspace> [configuration]       start a shell in a workspace\n" ++
    "  script <workspace> [configuration]   print the script that would be started\n" ++
    "  check <workspace>                    check the Desktopfile of a workspace\n" ++
    "  tags new <tag>                       create a tag\n" ++
    "  tags list                            list the tags\n" ++
    "  tags add <workspace> <tag>           put a tag on a workspace\n" ++
    "  tags show -t <tag> | -w <workspace>  show what belongs together\n"

/-- Answers a command line that asks for no command. -/
def decline [Host m] : UsageError → m Unit
  | .help => Host.print .output usageText
  | .version => Host.print .output versionText
  | .invalid => Host.print .error usageText

/-- Runs a command and tells its failure. -/
def runCommand [Monad m] [Host m] (command : Command) : m Ending := do
  match ← command.run.run with
  | .ok () => return .completed
  | .error failure =>
    Host.print .error failure.report
    return .failed failure

def run [Monad m] [Host m] (words : List String) : m Ending := do
  match CommandLine.ofWords words with
  | .error error =>
    decline error
    return .declined error
  | .ok line => runCommand line.command

/-- The filter that the words of a command line and the environment ask for. -/
def logFilter [Monad m] [Host m] (words : List String) : m LogFilter := do
  let verbose := match CommandLine.ofWords words with
    | .error _ => false
    | .ok line => line.verbose
  return .chosen verbose (← Host.lookup "RUST_LOG")

end Program

end Workspaces
