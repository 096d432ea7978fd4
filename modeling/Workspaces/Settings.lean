import Workspaces.Failure
import Workspaces.Toml.Document

/-!
# Settings

The user may choose the shell, the variant that is activated when none is named
and the place of the store.  Settings that are not given have defaults.
-/

namespace Workspaces

open Toml

structure Settings where
  /-- The shell that is started; it reads a script that `--init-file` names. -/
  shell : String
  /-- The variant that is activated when none is named. -/
  defaultVariant : String
  /-- Where the store is kept, as it was written. -/
  storePath : Option String
deriving DecidableEq, Repr

namespace Settings

def defaults : Settings := ⟨"bash", "default", none⟩

/-- The string under a key, or `other` if there is no such key. -/
def stringOr (key other : String) (entries : Entries) : Option String :=
  match entries.lookup key with
  | none => some other
  | some value => value.string?

def ofEntries? (entries : Entries) : Option Settings := do
  let shell ← stringOr "shell" defaults.shell entries
  let defaultVariant ← stringOr "default_variant" defaults.defaultVariant entries
  let storePath ← match entries.lookup "store_path" with
    | none => some none
    | some value => value.string?.map some
  return ⟨shell, defaultVariant, storePath⟩

/-- The settings that a text holds.  Keys that are not known are passed over, but their
values have to be legible. -/
def ofText? (text : String) : Option Settings :=
  ((Toml.parse text).filter areLegible).bind ofEntries?

/-- The settings in a file, or the defaults if there is no file. -/
def load [Monad m] [Host m] (path : Path) : ExceptT Failure m Settings := do
  if ← Host.contains path then
    match ← Host.readText path with
    | .error fault => throw (.settingsUnreadable path fault)
    | .ok text =>
      match ofText? text with
      | none => throw (.settingsMalformed path)
      | some settings => return settings
  else return defaults

end Settings

end Workspaces
