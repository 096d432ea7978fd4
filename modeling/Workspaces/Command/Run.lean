import Workspaces.Command.Line
import Workspaces.Log.Filter
import Workspaces.Session.Listings
import Workspaces.Session.Remembering
import Workspaces.Session.Starting

/-!
# Running a command

Every command runs in a session of its own.
-/

namespace Workspaces

def TagCommand.runIn [Monad m] [Host m] (session : Session) : TagCommand → ExceptT Failure m Unit
  | new name => session.createTag name
  | list => session.listTags
  | add workspace tag => session.tagWorkspace workspace tag
  | display tag workspace => session.showTarget tag workspace

namespace Command

def runIn [Monad m] [Host m] (session : Session) : Command → ExceptT Failure m Unit
  | new name description => session.create name description
  | list => session.listWorkspaces
  | go workspace variant => session.go workspace variant
  | script workspace variant => session.printScript workspace variant
  | check workspace => session.check workspace
  | tags command => command.runIn session

def run [Monad m] [Host m] (command : Command) : ExceptT Failure m Unit := do
  command.runIn (← Session.start)

end Command

end Workspaces
