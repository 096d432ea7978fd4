import Workspaces.Instant.Text
import Workspaces.Store
import Workspaces.Toml.Document
import Workspaces.Toml.Writer

/-!
# The written form of a store

A store is written as a TOML document: its version, its tags and a table for
each workspace.  A path that is no text cannot be written.  Reading does not
ask for the tags and the workspaces, and passes over what it does not know.  It
looks at every value, and so refuses illegible numbers, except at what stands
after the last field of a workspace that is written as an array.
-/

namespace Workspaces

open Toml

namespace Workspace

/-- The lines of a workspace, if its path is a text. -/
def lines? (workspace : Workspace) : Option (List Char) :=
  workspace.path.text?.map fun path =>
    pairLine "name" (quoted workspace.name.toList) ++
      pairLine "description" (quoted workspace.description.toList) ++
      pairLine "path" (quoted path.toList) ++
      pairLine "created_at" (quoted workspace.createdAt.chars) ++
      pairLine "modified_at" (quoted workspace.modifiedAt.chars) ++
      pairLine "last_used_at" (quoted workspace.lastUsedAt.chars) ++
      pairLine "tags" (stringArray (workspace.tags.toList.map String.toList))

/-- The header before the lines of a workspace. -/
def header : List Char := "\n[[workspaces]]\n".toList

/-- The fields of a workspace in their order. -/
def fieldNames : List String :=
  ["name", "description", "path", "created_at", "modified_at", "last_used_at", "tags"]

end Workspace

/-- The set of strings under a key, empty if there is none. -/
def namesAt? (key : String) (entries : Entries) : Option Names :=
  match entries.lookup key with
  | none => some .empty
  | some value => value.strings?.map Names.ofList

def stringAt? (key : String) (entries : Entries) : Option String :=
  (entries.lookup key).bind Value.string?

def instantAt? (key : String) (entries : Entries) : Option Instant :=
  (stringAt? key entries).bind Instant.ofText?

namespace Workspace

def ofValue? (value : Value) : Option Workspace := do
  let entries ← (value.fields? fieldNames).filter areLegible
  let name ← stringAt? "name" entries
  let description ← stringAt? "description" entries
  let path ← stringAt? "path" entries
  let createdAt ← instantAt? "created_at" entries
  let modifiedAt ← instantAt? "modified_at" entries
  let lastUsedAt ← instantAt? "last_used_at" entries
  let tags ← namesAt? "tags" entries
  return ⟨name, description, .ofText path, createdAt, modifiedAt, lastUsedAt, tags⟩

end Workspace

namespace Store

/-- The written form of a store, if all its paths are texts. -/
def chars? (store : Store) : Option (List Char) :=
  (store.workspaces.mapM Workspace.lines?).map fun workspaces =>
    pairLine "version" (Nat.toDigits 10 store.version.toNat) ++
      pairLine "tags" (stringArray (store.tags.toList.map String.toList)) ++
      if workspaces = [] then pairLine "workspaces" ['[', ']']
      else workspaces.flatMap (Workspace.header ++ ·)

def text? (store : Store) : Option String := store.chars?.map String.ofList

def version? (value : Value) : Option UInt32 :=
  value.integer?.bind fun version =>
    if 0 ≤ version ∧ version < UInt32.size then some (UInt32.ofNat version.toNat) else none

def workspacesAt? (key : String) (entries : Entries) : Option (List Workspace) :=
  match entries.lookup key with
  | none => some []
  | some value => value.items?.bind fun items => items.mapM Workspace.ofValue?

/-- The entries that are looked at as a whole; workspaces are looked at one by one. -/
def plainEntries (entries : Entries) : Entries := entries.filter fun entry => entry.1 ≠ "workspaces"

def ofEntries? (entries : Entries) : Option Store := do
  let version ← (entries.lookup "version").bind version?
  let tags ← namesAt? "tags" entries
  let workspaces ← workspacesAt? "workspaces" entries
  return ⟨version, tags, workspaces⟩

/-- The store that a text is the written form of. -/
def ofText? (text : String) : Option Store :=
  ((Toml.parse text).filter fun entries => areLegible (plainEntries entries)).bind ofEntries?

end Store

end Workspaces
