import Workspaces.Fault
import Workspaces.Path
import Workspaces.Table

/-!
# Files

The files of a system are nodes at locations.  A location is the list of names
that lead to it from the root; unlike a path it goes through no link and holds
no dots.  The root is always a directory.
-/

namespace Workspaces

abbrev Location := List Path.Name

inductive Node where
  | file (contents : List TextUnit) (executable : Bool)
  | directory
  | link (target : Path)
deriving DecidableEq, Repr

structure Files where
  /-- What stands below the root, each location once. -/
  entries : List (Location × Node)

namespace Files

def empty : Files := ⟨[]⟩

def get? (files : Files) (location : Location) : Option Node :=
  if location = [] then some .directory else files.entries.lookup location

def set (files : Files) (location : Location) (node : Node) : Files :=
  ⟨(location, node) :: files.entries.filter fun entry => entry.1 ≠ location⟩

@[simp] theorem get?_root (files : Files) : files.get? [] = some .directory := rfl

theorem lookup_filter_ne (entries : List (Location × Node)) {location other : Location}
    (h : other ≠ location) :
    (entries.filter fun entry => decide (entry.1 ≠ location)).lookup other =
      entries.lookup other := by
  induction entries with
  | nil => rfl
  | cons entry entries ih =>
    by_cases hentry : entry.1 = location
    · rw [List.filter_cons_of_neg (by simpa using hentry), ih, lookup_cons, hentry, if_neg h]
    · rw [List.filter_cons_of_pos (by simpa using hentry), lookup_cons, lookup_cons, ih]

theorem get?_set (files : Files) {location : Location} (node : Node) (other : Location)
    (h : location ≠ []) :
    (files.set location node).get? other =
      if other = location then some node else files.get? other := by
  by_cases hother : other = location
  · subst hother
    simp [get?, set, h, lookup_cons]
  · simp only [get?, set, hother, if_false, lookup_cons]
    rw [lookup_filter_ne files.entries hother]

end Files

end Workspaces
