import Workspaces.Desktopfile.Template
import Workspaces.Session

/-!
# Remembering

A directory is remembered under a name, and tags are put on what is remembered.
The store is saved before anything is told, and nothing is saved if the store
refuses.
-/

namespace Workspaces.Session

/-- Writes a Desktopfile to start from into a directory that has none. -/
def writeTemplate [Monad m] [Host m] (directory : Path) : ExceptT Failure m Unit := do
  let desktopfile := directory.join desktopfileName
  if ← Host.contains desktopfile then return ()
  else
    match ← Host.writeText desktopfile Desktopfile.template with
    | .error fault => throw (.desktopfileNotWritten desktopfile fault)
    | .ok () => (Notice.success "Created" ("starter " ++ desktopfileName.shown)).tell

/-- Remembers the current directory as a workspace. -/
def create [Monad m] [Host m] (session : Session) (name description : String) :
    ExceptT Failure m Unit := do
  match ← Host.currentDirectory with
  | .error fault => throw (.noCurrentDirectory fault)
  | .ok directory =>
    (Notice.info ("Creating a new workspace in directory " ++ directory.shown)).tell
    match session.store.find? name with
    | some workspace => throw (.workspaceExists name workspace.path)
    | none =>
      session.save (session.store.addWorkspace (← Host.now) name description directory)
      writeTemplate directory
      (Notice.success "Created" ("workspace '" ++ name ++ "'")).tell

def createTag [Monad m] [Host m] (session : Session) (tag : String) : ExceptT Failure m Unit := do
  session.save (session.store.addTag tag)
  (Notice.success "Created" ("tag '" ++ tag ++ "'")).tell

/-- Puts a tag on a workspace. -/
def tagWorkspace [Monad m] [Host m] (session : Session) (name tag : String) :
    ExceptT Failure m Unit := do
  session.save (session.store.tagWorkspace (← Host.now) name tag)
  (Notice.success "Tagged" ("workspace '" ++ name ++ "' with '" ++ tag ++ "'")).tell

end Workspaces.Session
