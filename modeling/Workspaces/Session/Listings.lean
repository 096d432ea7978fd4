import Workspaces.Age
import Workspaces.Session

/-!
# Listings

What the store holds, as rows for the user.  Nothing is changed by them.
-/

namespace Workspaces

/-- Where a workspace is and when it was used. -/
def Workspace.whereabouts (workspace : Workspace) (now : Instant) : String :=
  workspace.path.shown ++ " (last used " ++ (Age.between workspace.lastUsedAt now).text ++ ")"

def Workspace.row (now : Instant) (workspace : Workspace) : Notice :=
  .listing workspace.name (workspace.description ++ "\n" ++ workspace.whereabouts now)

def Workspace.shortRow (now : Instant) (workspace : Workspace) : Notice :=
  .listing workspace.name (workspace.whereabouts now)

def Store.tagRow (store : Store) (tag : String) : Notice :=
  .listing tag (toString (store.tagUsage tag) ++ " workspace(s)")

namespace Session

/-- Lists the workspaces, the one used last first. -/
def listWorkspaces [Monad m] [Host m] (session : Session) : ExceptT Failure m Unit := do
  match session.store.byRecency with
  | [] => (Notice.info "No workspaces found. Create a few with 'desktop new'!").tell
  | workspaces => do
    let now ← Host.now
    workspaces.forM fun workspace => (workspace.row now).tell

/-- Lists the tags and how many workspaces have them. -/
def listTags [Monad m] [Host m] (session : Session) : ExceptT Failure m Unit :=
  match session.store.tags.toList with
  | [] => (Notice.info "No tags found! Create a few with 'desktop tags new'!").tell
  | tags => tags.forM fun tag => (session.store.tagRow tag).tell

/-- Shows the workspaces that have a tag. -/
def showTag [Monad m] [Host m] (session : Session) (tag : String) : ExceptT Failure m Unit := do
  match session.store.workspacesWithTag tag with
  | .error error => throw (.store error)
  | .ok [] => (Notice.info ("No workspaces found with the tag '" ++ tag ++ "'")).tell
  | .ok workspaces => do
    let now ← Host.now
    workspaces.forM fun workspace => (workspace.shortRow now).tell

/-- Shows the tags that a workspace has. -/
def showTagsOf [Monad m] [Host m] (session : Session) (name : String) :
    ExceptT Failure m Unit := do
  match session.store.tagsOf name with
  | .error error => throw (.store error)
  | .ok tags =>
    match tags.toList with
    | [] => (Notice.info ("No tags found on workspace '" ++ name ++ "'")).tell
    | tags => tags.forM fun tag => (Notice.listing "Tag" tag).tell

/-- Shows the workspaces of a tag or the tags of a workspace. -/
def showTarget [Monad m] [Host m] (session : Session) (tag workspace : Option String) :
    ExceptT Failure m Unit :=
  match tag, workspace with
  | some tag, none => session.showTag tag
  | none, some name => session.showTagsOf name
  | _, _ => throw .notOneTarget

end Session

end Workspaces
