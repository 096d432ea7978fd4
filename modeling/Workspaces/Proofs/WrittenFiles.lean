import Workspaces.Files.Access

/-!
# Files after a change

No operation on files takes away what a path goes through: directories and links
stay as they are, and a file stays a file, perhaps with new contents.  A walk that
led somewhere leads there again, so what was written to a path is what is read
from it.
-/

namespace Workspaces

namespace Spot

/-- Where a walk ended, whether something is there or not. -/
def location : Spot → Location
  | occupied location _ => location
  | vacant location => location

def node? : Spot → Option Node
  | occupied _ node => some node
  | vacant _ => none

end Spot

namespace Files

/-! ## The ways of a walk -/

/-- A piece that names an entry of a directory. -/
def IsEntryName (piece : Path.Name) : Prop :=
  piece ≠ [] ∧ piece ≠ Path.here ∧ piece ≠ Path.above ∧ nameBytes piece ≤ maxNameBytes

/-- The walk along the pieces leads to the spot. -/
inductive Leads (files : Files) (purpose : Purpose) :
    Nat → Location → List Path.Name → Spot → Prop
  | arrived {links location node} (hnode : files.get? location = some node) :
      Leads files purpose links location [] (.occupied location node)
  | stay {links location piece rest spot} (hdirectory : files.get? location = some .directory)
      (hpiece : piece = [] ∨ piece = Path.here)
      (hrest : Leads files purpose links location rest spot) :
      Leads files purpose links location (piece :: rest) spot
  | up {links location rest spot} (hdirectory : files.get? location = some .directory)
      (hrest : Leads files purpose links location.dropLast rest spot) :
      Leads files purpose links location (Path.above :: rest) spot
  | vacant {links location piece} (hdirectory : files.get? location = some .directory)
      (hpiece : IsEntryName piece) (hnone : files.get? (location ++ [piece]) = none) :
      Leads files purpose links location [piece] (.vacant (location ++ [piece]))
  | entry {links location piece target} (hdirectory : files.get? location = some .directory)
      (hpiece : IsEntryName piece) (hlink : files.get? (location ++ [piece]) = some (.link target))
      (hpurpose : purpose = .entry) :
      Leads files purpose links location [piece] (.occupied (location ++ [piece]) (.link target))
  | follow {links location piece rest target spot}
      (hdirectory : files.get? location = some .directory) (hpiece : IsEntryName piece)
      (hlink : files.get? (location ++ [piece]) = some (.link target))
      (hrest : Leads files purpose links (if target.isAbsolute then [] else location)
        (target.pieces ++ rest) spot) :
      Leads files purpose (links + 1) location (piece :: rest) spot
  | down {links location piece rest node spot}
      (hdirectory : files.get? location = some .directory) (hpiece : IsEntryName piece)
      (hnode : files.get? (location ++ [piece]) = some node) (hlink : ∀ target, node ≠ .link target)
      (hrest : Leads files purpose links (location ++ [piece]) rest spot) :
      Leads files purpose links location (piece :: rest) spot

variable {files before after : Files} {purpose : Purpose} {links : Nat} {location place : Location}
  {piece : Path.Name} {pieces rest : List Path.Name} {path : Path} {spot : Spot}
  {contents : List TextUnit} {executable : Bool} {node : Node}

instance (piece : Path.Name) : Decidable (IsEntryName piece) :=
  inferInstanceAs (Decidable (_ ∧ _))

theorem IsEntryName.intro (hstay : ¬ (piece = [] ∨ piece = Path.here)) (hup : piece ≠ Path.above)
    (hbytes : ¬ maxNameBytes < nameBytes piece) : IsEntryName piece :=
  ⟨fun h => hstay (.inl h), fun h => hstay (.inr h), hup, Nat.le_of_not_lt hbytes⟩

theorem leads_of_walk (h : files.walk purpose links location pieces = .ok spot) :
    files.Leads purpose links location pieces spot := by
  fun_induction files.walk purpose links location pieces with
  | case1 => cases h
  | case2 links location node hnode =>
      cases h
      exact .arrived hnode
  | case3 => cases h
  | case4 links location piece rest hdirectory hpiece ih => exact .stay hdirectory hpiece (ih h)
  | case5 links location rest hdirectory _ ih => exact .up hdirectory (ih h)
  | case6 => cases h
  | case7 => cases h
  | case8 links location piece hdirectory hstay hup hbytes hnone =>
      cases h
      exact .vacant hdirectory (.intro hstay hup hbytes) hnone
  | case9 => cases h
  | case10 links location piece rest hdirectory hstay hup _ hbytes target hlink hentry =>
      cases h
      obtain ⟨rfl, hpurpose⟩ := hentry
      exact .entry hdirectory (.intro hstay hup hbytes) hlink hpurpose
  | case11 => cases h
  | case12 location piece rest hdirectory hstay hup _ hbytes target hlink _ links ih =>
      exact .follow hdirectory (.intro hstay hup hbytes) hlink (ih h)
  | case13 links location piece rest hdirectory hstay hup _ hbytes node hother hnode ih =>
      exact .down hdirectory (.intro hstay hup hbytes) hnode hother (ih h)
  | case14 => cases h

/-- A walk to look goes every way that leads to a spot. -/
theorem Leads.walk_inspect (h : files.Leads .inspect links location pieces spot) :
    files.walk .inspect links location pieces = .ok spot := by
  induction h with
  | arrived hnode =>
      rw [walk, hnode]
  | stay hdirectory hpiece _ ih =>
      rw [walk, hdirectory]
      simp only [if_pos hpiece, ih]
  | up hdirectory _ ih =>
      have hstay : ¬ (Path.above = [] ∨ Path.above = Path.here) := by decide
      rw [walk, hdirectory]
      simp only [if_neg hstay, if_true, ih]
  | vacant hdirectory hpiece hnone =>
      obtain ⟨hempty, hhere, hup, hbytes⟩ := hpiece
      rw [walk, hdirectory]
      simp [hempty, hhere, hup, Nat.not_lt.mpr hbytes, hnone]
  | entry _ _ _ hpurpose =>
      cases hpurpose
  | follow hdirectory hpiece hlink _ ih =>
      obtain ⟨hempty, hhere, hup, hbytes⟩ := hpiece
      rw [walk, hdirectory]
      simpa [hempty, hhere, hup, Nat.not_lt.mpr hbytes, hlink] using ih
  | down hdirectory hpiece hnode hlink _ ih =>
      obtain ⟨hempty, hhere, hup, hbytes⟩ := hpiece
      rw [walk, hdirectory]
      simp [hempty, hhere, hup, Nat.not_lt.mpr hbytes, hnode, ih]

/-- A walk to write ends at an entry that a directory does not have yet. -/
theorem walk_new_entry (hdirectory : files.get? location = some .directory)
    (hpiece : IsEntryName piece) (hnone : files.get? (location ++ [piece]) = none) :
    files.walk .write links location [piece] = .ok (.vacant (location ++ [piece])) := by
  obtain ⟨hempty, hhere, hup, hbytes⟩ := hpiece
  rw [walk, hdirectory]
  simp [hempty, hhere, hup, Nat.not_lt.mpr hbytes, hnone]

/-- A walk ends at what the files hold there. -/
theorem Leads.get?_location (h : files.Leads purpose links location pieces spot) :
    files.get? spot.location = spot.node? := by
  induction h with
  | arrived hnode => exact hnode
  | stay _ _ _ ih => exact ih
  | up _ _ ih => exact ih
  | vacant _ _ hnone => exact hnone
  | entry _ _ hlink _ => exact hlink
  | follow _ _ _ _ ih => exact ih
  | down _ _ _ _ _ ih => exact ih

/-! ## What later files keep of earlier ones -/

/-- What was there is still there: the same, or a file with new contents. -/
def Grows (before after : Files) : Prop :=
  ∀ location node, before.get? location = some node →
    after.get? location = some node ∨
      (∃ contents executable, node = .file contents executable) ∧
        ∃ contents executable, after.get? location = some (.file contents executable)

/-- What was there is there unchanged. -/
def Extends (before after : Files) : Prop :=
  ∀ location node, before.get? location = some node → after.get? location = some node

theorem Extends.refl (files : Files) : files.Extends files := fun _ _ h => h

theorem Extends.trans {middle : Files} (hfirst : before.Extends middle)
    (hsecond : middle.Extends after) : before.Extends after :=
  fun location node h => hsecond location node (hfirst location node h)

theorem Extends.grows (h : before.Extends after) : before.Grows after :=
  fun location node hnode => .inl (h location node hnode)

theorem Grows.trans {middle : Files} (hfirst : before.Grows middle)
    (hsecond : middle.Grows after) : before.Grows after := by
  intro location node hnode
  rcases hfirst location node hnode with hmiddle | ⟨hfile, contents, executable, hmiddle⟩
  · exact hsecond location node hmiddle
  · rcases hsecond location _ hmiddle with hafter | ⟨_, hafter⟩
    · exact .inr ⟨hfile, contents, executable, hafter⟩
    · exact .inr ⟨hfile, hafter⟩

theorem Grows.get?_directory (h : before.Grows after)
    (hdirectory : before.get? location = some .directory) :
    after.get? location = some .directory := by
  rcases h location _ hdirectory with hafter | ⟨⟨_, _, hfile⟩, _⟩
  · exact hafter
  · cases hfile

theorem Grows.get?_link (h : before.Grows after) {target : Path}
    (hlink : before.get? location = some (.link target)) :
    after.get? location = some (.link target) := by
  rcases h location _ hlink with hafter | ⟨⟨_, _, hfile⟩, _⟩
  · exact hafter
  · cases hfile

theorem Grows.get?_of_not_link (h : before.Grows after) (hnode : before.get? location = some node)
    (hlink : ∀ target, node ≠ .link target) :
    ∃ later, after.get? location = some later ∧ ∀ target, later ≠ .link target := by
  rcases h location _ hnode with hafter | ⟨_, contents, executable, hafter⟩
  · exact ⟨node, hafter, hlink⟩
  · exact ⟨_, hafter, by rintro target ⟨⟩⟩

/-- The way to a spot leads to what is there later. -/
theorem Leads.of_grows (h : before.Leads purpose links location pieces spot)
    (hpurpose : purpose ≠ .entry) (hgrows : before.Grows after)
    (hnode : after.get? spot.location = some node) (hlink : ∀ target, node ≠ .link target) :
    after.Leads .inspect links location pieces (.occupied spot.location node) := by
  induction h with
  | arrived _ =>
      exact .arrived hnode
  | stay hdirectory hpiece _ ih =>
      exact .stay (hgrows.get?_directory hdirectory) hpiece (ih hnode)
  | up hdirectory _ ih =>
      exact .up (hgrows.get?_directory hdirectory) (ih hnode)
  | vacant hdirectory hpiece _ =>
      exact .down (hgrows.get?_directory hdirectory) hpiece hnode hlink (.arrived hnode)
  | entry _ _ _ hentry =>
      exact absurd hentry hpurpose
  | follow hdirectory hpiece hlink _ ih =>
      exact .follow (hgrows.get?_directory hdirectory) hpiece (hgrows.get?_link hlink) (ih hnode)
  | down hdirectory hpiece hnext hother _ ih =>
      obtain ⟨later, hlater, hnone⟩ := hgrows.get?_of_not_link hnext hother
      exact .down (hgrows.get?_directory hdirectory) hpiece hlater hnone (ih hnode)

/-- A way to what is there stays open as long as it is there. -/
theorem Leads.of_grows_occupied
    (h : before.Leads purpose links location pieces (.occupied place node))
    (hgrows : before.Grows after) (hnode : after.get? place = some node) :
    after.Leads purpose links location pieces (.occupied place node) := by
  generalize hspot : Spot.occupied place node = spot at h
  induction h with
  | arrived _ =>
      cases hspot
      exact .arrived hnode
  | stay hdirectory hpiece _ ih =>
      exact .stay (hgrows.get?_directory hdirectory) hpiece (ih hspot)
  | up hdirectory _ ih => exact .up (hgrows.get?_directory hdirectory) (ih hspot)
  | vacant _ _ _ => cases hspot
  | entry hdirectory hpiece hlink hpurpose =>
      cases hspot
      exact .entry (hgrows.get?_directory hdirectory) hpiece (hgrows.get?_link hlink) hpurpose
  | follow hdirectory hpiece hlink _ ih =>
      exact .follow (hgrows.get?_directory hdirectory) hpiece (hgrows.get?_link hlink) (ih hspot)
  | down hdirectory hpiece hnext hother _ ih =>
      obtain ⟨later, hlater, hnone⟩ := hgrows.get?_of_not_link hnext hother
      exact .down (hgrows.get?_directory hdirectory) hpiece hlater hnone (ih hspot)

/-- What leads to nothing leads there for every purpose. -/
theorem Leads.of_vacant (h : files.Leads purpose links location pieces (.vacant place))
    (aim : Purpose) : files.Leads aim links location pieces (.vacant place) := by
  generalize hspot : Spot.vacant place = spot at h
  induction h with
  | arrived _ => cases hspot
  | stay hdirectory hpiece _ ih => exact .stay hdirectory hpiece (ih hspot)
  | up hdirectory _ ih => exact .up hdirectory (ih hspot)
  | vacant hdirectory hpiece hnone => exact .vacant hdirectory hpiece hnone
  | entry _ _ _ _ => cases hspot
  | follow hdirectory hpiece hlink _ ih => exact .follow hdirectory hpiece hlink (ih hspot)
  | down hdirectory hpiece hnode hlink _ ih => exact .down hdirectory hpiece hnode hlink (ih hspot)

/-! ## Making directories -/

theorem extends_set (h : files.get? place = none) (node : Node) :
    files.Extends (files.set place node) := by
  have hne : place ≠ [] := by
    rintro rfl
    cases h
  intro location other hother
  rw [get?_set files node location hne]
  split
  · rename_i heq
    rw [heq, h] at hother
    cases hother
  · exact hother

/-- A path that was walked for one purpose can be walked for any other. -/
theorem find_eq_walk (h : files.find purpose location path = .ok spot) (other : Files)
    (aim : Purpose) :
    other.find aim location path =
      other.walk aim maxLinks (if path.isAbsolute then [] else location) path.pieces := by
  rw [find] at h
  split at h
  · cases h
  · rename_i hnul
    split at h
    · cases h
    · rename_i hempty
      split at h
      · cases h
      · rename_i hbytes
        rw [find, if_neg hnul, if_neg hempty, if_neg hbytes]

theorem leads_of_find (h : files.find purpose location path = .ok spot) :
    files.Leads purpose maxLinks (if path.isAbsolute then [] else location) path.pieces spot :=
  leads_of_walk ((find_eq_walk h files purpose).symm.trans h)

theorem extends_create (h : files.create location path node = .ok after) :
    files.Extends after := by
  rw [create] at h
  split at h
  · cases h
  · rename_i place hfind
    cases h
    exact extends_set (leads_of_find hfind).get?_location node
  · cases h

/-- An empty path has no directory to make. -/
theorem makeDirectories_empty (files : Files) (location : Location) :
    files.makeDirectories location ⟨[]⟩ = (.ok (), files) := by
  rw [makeDirectories, makeTree, if_pos (by decide)]

theorem extends_makeTree (files : Files) (location : Location) (absolute : Bool)
    (names : List Path.Name) : files.Extends (files.makeTree location absolute names).2 := by
  fun_induction files.makeTree location absolute names with
  | case1 => exact .refl files
  | case2 names _ path made hcreate => exact extends_create hcreate
  | case3 => exact .refl files
  | case4 first others fault made hmade _ path _ ih =>
      rwa [hmade] at ih
  | case5 first others made hmade done _ path _ hcreate ih =>
      rw [hmade] at ih
      exact ih.trans (extends_create hcreate)
  | case6 first others made hmade fault _ path _ _ _ ih =>
      rwa [hmade] at ih
  | case7 first others made hmade fault _ path _ _ _ ih =>
      rwa [hmade] at ih
  | case8 => exact .refl files
  | case9 => exact .refl files

/-! ## Making and writing -/

/-- A path leads to what is there later. -/
theorem inspect_of_grows (hfind : before.find purpose location path = .ok spot)
    (hpurpose : purpose ≠ .entry) (hgrows : before.Grows after)
    (hnode : after.get? spot.location = some node) (hlink : ∀ target, node ≠ .link target) :
    after.inspect location path = .ok (spot.location, node) := by
  have hleads := (leads_of_find hfind).of_grows hpurpose hgrows hnode hlink
  rw [inspect, find_eq_walk hfind after .inspect, hleads.walk_inspect]

theorem find_of_inspect (h : files.inspect location path = .ok (place, node)) :
    files.find .inspect location path = .ok (.occupied place node) := by
  rw [inspect] at h
  split at h
  · cases h
  · cases h
  · rename_i hfind
    cases h
    exact hfind

theorem get?_of_inspect (h : files.inspect location path = .ok (place, node)) :
    files.get? place = some node :=
  (leads_of_find (find_of_inspect h)).get?_location

theorem inspect_of_grows_occupied (h : before.inspect location path = .ok (place, node))
    (hgrows : before.Grows after) (hnode : after.get? place = some node) :
    after.inspect location path = .ok (place, node) := by
  have hfind := find_of_inspect h
  have hleads := (leads_of_find hfind).of_grows_occupied hgrows hnode
  rw [inspect, find_eq_walk hfind after .inspect, hleads.walk_inspect]

theorem inspect_of_extends (h : before.inspect location path = .ok (place, node))
    (hextends : before.Extends after) : after.inspect location path = .ok (place, node) :=
  inspect_of_grows_occupied h hextends.grows (hextends _ _ (get?_of_inspect h))

/-- What is made under a path is put at a free place, and the path leads to it. -/
theorem create_eq_ok (h : before.create location path node = .ok after)
    (hlink : ∀ target, node ≠ .link target) :
    ∃ place, before.get? place = none ∧ after = before.set place node ∧
      after.inspect location path = .ok (place, node) := by
  have hextends := extends_create h
  rw [create] at h
  split at h
  · cases h
  · rename_i place hfind
    cases h
    have hleads := leads_of_find hfind
    have hne : place ≠ [] := by
      rintro rfl
      cases hleads.get?_location
    have hnode : (before.set place node).get? place = some node := by
      rw [get?_set before _ _ hne, if_pos rfl]
    have hlater := (hleads.of_vacant .inspect).of_grows (by decide) hextends.grows hnode hlink
    refine ⟨place, hleads.get?_location, rfl, ?_⟩
    rw [inspect, find_eq_walk hfind _ .inspect, hlater.walk_inspect]
    rfl
  · cases h

/-- A place that takes a file: nothing is there, or a file. -/
def TakesFile (files : Files) (place : Location) : Prop :=
  files.get? place = none ∨
    ∃ contents executable, files.get? place = some (.file contents executable)

theorem TakesFile.ne_root (h : files.TakesFile place) : place ≠ [] := by
  rintro rfl
  rcases h with h | ⟨_, _, h⟩ <;> cases h

theorem grows_set_file (h : files.TakesFile place) (contents : List TextUnit) (executable : Bool) :
    files.Grows (files.set place (.file contents executable)) := by
  intro location node hnode
  rw [get?_set files _ location h.ne_root]
  split
  · rename_i heq
    subst heq
    rcases h with hnone | ⟨old, was, hfile⟩
    · rw [hnone] at hnode
      cases hnode
    · rw [hfile] at hnode
      cases hnode
      exact .inr ⟨⟨old, was, rfl⟩, contents, executable, rfl⟩
  · exact .inl hnode

theorem writeText_of_vacant (h : files.find .write location path = .ok (.vacant place))
    (text : String) : files.writeText location path text =
      .ok (files.set place (.file (TextUnit.ofText text) false)) := by
  rw [writeText, write, h]

theorem writeText_of_occupied {old : List TextUnit}
    (h : files.find .write location path = .ok (.occupied place (.file old executable)))
    (text : String) : files.writeText location path text =
      .ok (files.set place (.file (TextUnit.ofText text) executable)) := by
  rw [writeText, write, h]

/-- What is written to a path is put where the path leads, then and afterwards. -/
theorem write_eq_ok (h : files.write location path contents = .ok after) :
    ∃ place executable, files.TakesFile place ∧
      after = files.set place (.file contents executable) ∧
      after.inspect location path = .ok (place, .file contents executable) := by
  have hwritten {spot : Spot} {executable : Bool}
      (hfind : files.find .write location path = .ok spot)
      (htakes : files.TakesFile spot.location) :
      (files.set spot.location (.file contents executable)).inspect location path =
        .ok (spot.location, .file contents executable) := by
    apply inspect_of_grows hfind (by decide) (grows_set_file htakes contents executable)
    · rw [get?_set files _ _ htakes.ne_root, if_pos rfl]
    · rintro target ⟨⟩
  rw [write] at h
  split at h
  · cases h
  · rename_i place hfind
    cases h
    have htakes : files.TakesFile place := .inl (leads_of_find hfind).get?_location
    exact ⟨place, false, htakes, rfl, hwritten hfind htakes⟩
  · rename_i place old executable hfind
    cases h
    have htakes : files.TakesFile place :=
      .inr ⟨old, executable, (leads_of_find hfind).get?_location⟩
    exact ⟨place, executable, htakes, rfl, hwritten hfind htakes⟩
  · cases h

theorem grows_writeText {text : String} (h : files.writeText location path text = .ok after) :
    files.Grows after := by
  obtain ⟨place, executable, htakes, rfl, _⟩ := write_eq_ok h
  exact grows_set_file htakes _ _

/-- The text of the file that a path leads to is read. -/
theorem readText_of_inspect {text : String}
    (h : files.inspect location path = .ok (place, .file (TextUnit.ofText text) executable)) :
    files.contains location path = true ∧ files.readText location path = .ok text := by
  rw [contains, readText, h]
  simp only [TextUnit.text?_ofText, and_self]

end Files

end Workspaces
