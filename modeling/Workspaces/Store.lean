import Workspaces.Fault
import Workspaces.Instant
import Workspaces.Names
import Workspaces.Path

/-!
# The store

The store remembers directories as workspaces, in the order in which they were
added, and the tags that may be put on them.  A name stands for the first
workspace that has it.  An operation that fails leaves the store as it was.
-/

namespace Workspaces

/-- A remembered directory. -/
structure Workspace where
  name : String
  description : String
  path : Path
  createdAt : Instant
  modifiedAt : Instant
  lastUsedAt : Instant
  tags : Names
deriving DecidableEq

structure Store where
  /-- The version of the format that the store is kept in. -/
  version : UInt32
  /-- The tags that may be put on a workspace. -/
  tags : Names
  workspaces : List Workspace
deriving DecidableEq

inductive StoreError where
  | unreadable (path : Path) (fault : Fault)
  | malformed (path : Path)
  | unwritable (path : Path) (fault : Fault)
  /-- The path of a workspace is no text, so it cannot be written down. -/
  | pathNotText
  | duplicateWorkspace (name : String)
  | unknownWorkspace (name : String)
  | duplicateTag (name : String)
  | unknownTag (name : String)
deriving DecidableEq, Repr

def StoreError.message : StoreError → String
  | unreadable path _ => "failed to read store " ++ path.shown
  | malformed path => "failed to parse store " ++ path.shown
  | unwritable path _ => "failed to write store " ++ path.shown
  | pathNotText => "path contains invalid UTF-8 characters"
  | duplicateWorkspace name => "a workspace named \"" ++ name ++ "\" already exists"
  | unknownWorkspace name => "no workspace named \"" ++ name ++ "\""
  | duplicateTag name => "a tag named \"" ++ name ++ "\" already exists"
  | unknownTag name => "no tag named \"" ++ name ++ "\""

/-- Changes the first workspace of a name, if there is one. -/
def updateFirst (name : String) (change : Workspace → Workspace) :
    List Workspace → Option (List Workspace)
  | [] => none
  | workspace :: workspaces =>
    if workspace.name = name then some (change workspace :: workspaces)
    else (updateFirst name change workspaces).map (workspace :: ·)

namespace Store

def currentVersion : UInt32 := 1

def empty : Store := ⟨currentVersion, .empty, []⟩

instance : Inhabited Store := ⟨empty⟩

/-- The workspace that a name stands for. -/
def find? (store : Store) (name : String) : Option Workspace :=
  store.workspaces.find? fun workspace => workspace.name = name

/-- Changes the workspace that a name stands for. -/
def update (store : Store) (name : String) (change : Workspace → Workspace) :
    Except StoreError Unit × Store :=
  match updateFirst name change store.workspaces with
  | none => (.error (.unknownWorkspace name), store)
  | some workspaces => (.ok (), { store with workspaces := workspaces })

/-- Remembers a directory, and answers with its workspace. -/
def addWorkspace (store : Store) (now : Instant) (name description : String) (path : Path) :
    Except StoreError Workspace × Store :=
  if (store.find? name).isSome then (.error (.duplicateWorkspace name), store)
  else
    (.ok ⟨name, description, path, now, now, now, .empty⟩, { store with
      workspaces := store.workspaces ++ [⟨name, description, path, now, now, now, .empty⟩] })

/-- Notes that a workspace is used now. -/
def touch (store : Store) (now : Instant) (name : String) : Except StoreError Unit × Store :=
  store.update name fun workspace => { workspace with lastUsedAt := now }

/-- Adds a tag.  It is inserted before anything is said about one that was there. -/
def addTag (store : Store) (tag : String) : Except StoreError Unit × Store :=
  (if tag ∈ store.tags then .error (.duplicateTag tag) else .ok (),
    { store with tags := store.tags.insert tag })

/-- A workspace with a tag on it.  It is modified only if the tag is new to it. -/
def withTag (tag : String) (now : Instant) (workspace : Workspace) : Workspace :=
  { workspace with
    tags := workspace.tags.insert tag
    modifiedAt := if tag ∈ workspace.tags then workspace.modifiedAt else now }

def tagWorkspace (store : Store) (now : Instant) (name tag : String) :
    Except StoreError Unit × Store :=
  if tag ∈ store.tags then store.update name (withTag tag now)
  else (.error (.unknownTag tag), store)

/-- Whether a workspace is listed before another: it was not used before it. -/
def isRecentAs (first second : Workspace) : Bool := second.lastUsedAt ≤ first.lastUsedAt

/-- The workspaces, the one used last first; those used at the same time stay in their order. -/
def byRecency (store : Store) : List Workspace := store.workspaces.mergeSort isRecentAs

/-- How many workspaces have a tag. -/
def tagUsage (store : Store) (tag : String) : Nat :=
  store.workspaces.countP fun workspace => tag ∈ workspace.tags

/-- The workspaces with a tag, the one used last first. -/
def workspacesWithTag (store : Store) (tag : String) : Except StoreError (List Workspace) :=
  if tag ∈ store.tags then .ok (store.byRecency.filter fun workspace => tag ∈ workspace.tags)
  else .error (.unknownTag tag)

def tagsOf (store : Store) (name : String) : Except StoreError Names :=
  match store.find? name with
  | none => .error (.unknownWorkspace name)
  | some workspace => .ok workspace.tags

end Store

end Workspaces
