import Workspaces.Machine
import Workspaces.Proofs.StoreForm
import Workspaces.Proofs.WrittenFiles
import Workspaces.Store.Saved

/-!
# A saved store

On a machine, loading a store changes nothing and finds what the text of the file
says; saving one changes only the files.  So a store that was saved is loaded as
it was.
-/

namespace Workspaces

/-- What is done with stores on a machine, and may fail. -/
abbrev StoreM := ExceptT StoreError (StateM Machine)

namespace Machine

variable {ε α β : Type} {machine after : Machine} {path : Path} {text : String} {store : Store}

/-! ## Steps of a run that may fail -/

theorem run_bind_of_ok {action : ExceptT ε (StateM Machine) α}
    {next : α → ExceptT ε (StateM Machine) β} {value : α}
    (h : action.run machine = (.ok value, after)) :
    (action >>= next).run machine = (next value).run after := by
  show (StateT.bind action.run (ExceptT.bindCont next) : StateM Machine _) machine = _
  rw [StateT.bind, h]
  rfl

theorem run_bind_of_error {action : ExceptT ε (StateM Machine) α}
    {next : α → ExceptT ε (StateM Machine) β} {error : ε}
    (h : action.run machine = (.error error, after)) :
    (action >>= next).run machine = (.error error, after) := by
  show (StateT.bind action.run (ExceptT.bindCont next) : StateM Machine _) machine = _
  rw [StateT.bind, h]
  rfl

theorem run_contains (next : Bool → ExceptT ε (StateM Machine) α) :
    (Host.contains path >>= next).run machine =
      (next (machine.files.contains machine.directory path)).run machine := rfl

theorem run_readText (next : Except Fault String → ExceptT ε (StateM Machine) α) :
    (Host.readText path >>= next).run machine =
      (next (machine.files.readText machine.directory path)).run machine := rfl

theorem run_makeDirectories (next : Except Fault Unit → ExceptT ε (StateM Machine) α) :
    (Host.makeDirectories path >>= next).run machine =
      (next (machine.files.makeDirectories machine.directory path).1).run
        { machine with files := (machine.files.makeDirectories machine.directory path).2 } := rfl

theorem run_writeText (next : Except Fault Unit → ExceptT ε (StateM Machine) α) :
    (Host.writeText path text >>= next).run machine =
      match machine.files.writeText machine.directory path text with
      | .error fault => (next (.error fault)).run machine
      | .ok files => (next (.ok ())).run { machine with files := files } := by
  have hrun : (Host.writeText path text >>= next).run machine =
      (next ((Host.writeText path text : StateM Machine _) machine).1).run
        ((Host.writeText path text : StateM Machine _) machine).2 := rfl
  rw [hrun]
  simp only [Host.writeText]
  cases machine.files.writeText machine.directory path text <;> rfl

/-! ## Loading -/

/-- The store that is found under a path. -/
def storeAt (machine : Machine) (path : Path) : Except StoreError Store :=
  if machine.files.contains machine.directory path then
    match machine.files.readText machine.directory path with
    | .error fault => .error (.unreadable path fault)
    | .ok text =>
      match Store.ofText? text with
      | none => .error (.malformed path)
      | some store => .ok store
  else .ok .empty

/-- Loading finds a store and changes nothing. -/
theorem run_load (path : Path) (machine : Machine) :
    (Store.load path : StoreM Store).run machine = (machine.storeAt path, machine) := by
  rw [Store.load, run_contains, storeAt]
  split
  · rw [run_readText]
    cases machine.files.readText machine.directory path with
    | error fault =>
        rfl
    | ok text =>
        cases hstore : Store.ofText? text <;> simp only [hstore] <;> rfl
  · rfl

theorem storeAt_of_text (hcontains : machine.files.contains machine.directory path = true)
    (hread : machine.files.readText machine.directory path = .ok text)
    (hstore : Store.ofText? text = some store) : machine.storeAt path = .ok store := by
  rw [storeAt, if_pos hcontains, hread]
  simp only [hstore]

/-- A store that is found is the empty one, or the one that the text of the file says. -/
theorem storeAt_eq_ok (h : machine.storeAt path = .ok store) :
    (machine.files.contains machine.directory path = false ∧ store = .empty) ∨
      ∃ text, machine.files.contains machine.directory path = true ∧
        machine.files.readText machine.directory path = .ok text ∧
          Store.ofText? text = some store := by
  rw [storeAt] at h
  split at h
  · rename_i hcontains
    split at h
    · cases h
    · rename_i text hread
      split at h
      · cases h
      · rename_i hstore
        cases h
        exact .inr ⟨text, hcontains, hread, hstore⟩
  · rename_i hcontains
    cases h
    exact .inl ⟨by simpa using hcontains, rfl⟩

/-! ## Saving -/

/-- The machine after the directories on the way to a path are made. -/
def withWay (machine : Machine) (path : Path) : Machine :=
  match path.parent? with
  | none => machine
  | some parent =>
    { machine with files := (machine.files.makeDirectories machine.directory parent).2 }

/-- Nothing but the files changes. -/
theorem withWay_eq (machine : Machine) (path : Path) :
    machine.withWay path = { machine with files := (machine.withWay path).files } := by
  rw [withWay]
  split <;> rfl

theorem directory_withWay (machine : Machine) (path : Path) :
    (machine.withWay path).directory = machine.directory := by
  rw [withWay_eq]

theorem clock_withWay (machine : Machine) (path : Path) :
    (machine.withWay path).clock = machine.clock := by
  rw [withWay_eq]

theorem readings_withWay (machine : Machine) (path : Path) :
    (machine.withWay path).readings = machine.readings := by
  rw [withWay_eq]

theorem extends_withWay (machine : Machine) (path : Path) :
    machine.files.Extends (machine.withWay path).files := by
  rw [withWay]
  split
  · exact .refl _
  · exact Files.extends_makeTree _ _ _ _

theorem run_makeParent (path : Path) (machine : Machine) :
    (Store.makeParent path : StoreM Unit).run machine = (.ok (), machine.withWay path) ∨
      ∃ parent fault, path.parent? = some parent ∧
        machine.files.makeDirectories machine.directory parent =
          (.error fault, (machine.withWay path).files) ∧
        (Store.makeParent path : StoreM Unit).run machine =
          (.error (.unwritable path fault), machine.withWay path) := by
  rw [Store.makeParent, withWay]
  cases hparent : path.parent? with
  | none => exact .inl rfl
  | some parent =>
      dsimp only
      rw [run_makeDirectories]
      cases hmade : machine.files.makeDirectories machine.directory parent with
      | mk result files =>
          cases result with
          | error fault => exact .inr ⟨parent, fault, rfl, hmade, rfl⟩
          | ok made => exact .inl rfl

/-- Saving succeeds if the way is made and the text is written. -/
theorem run_save_of_write {files : Files}
    (hparent : (Store.makeParent path : StoreM Unit).run machine = (.ok (), machine.withWay path))
    (htext : store.text? = some text)
    (hwrite : (machine.withWay path).files.writeText machine.directory path text = .ok files) :
    (store.save path : StoreM Unit).run machine =
      (.ok (), { machine.withWay path with files := files }) := by
  rw [Store.save, run_bind_of_ok hparent, htext]
  dsimp only
  rw [run_writeText, directory_withWay, hwrite]
  rfl

/-- The same, told of the files alone. -/
theorem run_save_of_way {parent : Path} {way files : Files} (hparent : path.parent? = some parent)
    (hway : machine.files.makeDirectories machine.directory parent = (.ok (), way))
    (htext : store.text? = some text)
    (hwrite : way.writeText machine.directory path text = .ok files) :
    (store.save path : StoreM Unit).run machine = (.ok (), { machine with files := files }) := by
  have hrun : (Store.makeParent path : StoreM Unit).run machine =
      (.ok (), { machine with files := way }) := by
    rw [Store.makeParent, hparent]
    dsimp only
    rw [run_makeDirectories, hway]
    rfl
  rw [Store.save, run_bind_of_ok hrun, htext]
  dsimp only
  rw [run_writeText, hwrite]
  rfl

/-- The ends that saving can come to.  The text is written last, after the way was made. -/
inductive SaveRun (store : Store) (path : Path) (machine : Machine) :
    Except StoreError Unit × Machine → Prop
  | notMade {parent : Path} {fault : Fault} (hparent : path.parent? = some parent)
      (hfault : machine.files.makeDirectories machine.directory parent =
        (.error fault, (machine.withWay path).files)) :
      SaveRun store path machine (.error (.unwritable path fault), machine.withWay path)
  | notText (htext : store.text? = none) :
      SaveRun store path machine (.error .pathNotText, machine.withWay path)
  | notOpened {text : String} {fault : Fault} (htext : store.text? = some text)
      (hfault : (machine.withWay path).files.writeText machine.directory path text =
        .error fault) :
      SaveRun store path machine (.error (.unwritable path fault), machine.withWay path)
  | saved {text : String} {files : Files} (htext : store.text? = some text)
      (hwrite : (machine.withWay path).files.writeText machine.directory path text = .ok files) :
      SaveRun store path machine (.ok (), { machine.withWay path with files := files })

theorem saveRun_save (store : Store) (path : Path) (machine : Machine) :
    SaveRun store path machine ((store.save path : StoreM Unit).run machine) := by
  rcases run_makeParent path machine with hmade | ⟨parent, fault, hparent, hfault, hmade⟩
  · cases htext : store.text? with
    | none =>
        rw [Store.save, run_bind_of_ok hmade, htext]
        exact .notText htext
    | some text =>
        cases hwrite : (machine.withWay path).files.writeText machine.directory path text with
        | error fault =>
            rw [Store.save, run_bind_of_ok hmade, htext]
            dsimp only
            rw [run_writeText, directory_withWay, hwrite]
            exact .notOpened htext hwrite
        | ok files =>
            rw [run_save_of_write hmade htext hwrite]
            exact .saved htext hwrite
  · rw [Store.save, run_bind_of_error hmade]
    exact .notMade hparent hfault

/-- How saving ends: it wrote the text of the store, or failed and made directories only. -/
theorem run_save (store : Store) (path : Path) (machine : Machine) :
    (∃ error, (store.save path : StoreM Unit).run machine = (.error error, machine.withWay path)) ∨
      ∃ text files, store.text? = some text ∧
        (machine.withWay path).files.writeText machine.directory path text = .ok files ∧
        (store.save path : StoreM Unit).run machine =
          (.ok (), { machine.withWay path with files := files }) := by
  have hrun := saveRun_save store path machine
  generalize (store.save path : StoreM Unit).run machine = result at hrun
  cases hrun with
  | notMade hparent hfault => exact .inl ⟨_, rfl⟩
  | notText htext => exact .inl ⟨_, rfl⟩
  | notOpened htext hfault => exact .inl ⟨_, rfl⟩
  | saved htext hwrite => exact .inr ⟨_, _, htext, hwrite, rfl⟩

/-- After a store was saved, the path leads to a file that holds its text. -/
theorem inspect_of_save (h : (store.save path : StoreM Unit).run machine = (.ok (), after)) :
    ∃ text place executable, store.text? = some text ∧
      after.files.inspect after.directory path =
        .ok (place, .file (TextUnit.ofText text) executable) := by
  rcases machine.run_save store path with ⟨error, hsave⟩ | ⟨text, files, htext, hwrite, hsave⟩
  · rw [hsave] at h
    cases h
  · rw [hsave] at h
    cases h
    rw [← machine.directory_withWay path] at hwrite
    obtain ⟨place, executable, _, _, hinspect⟩ := Files.write_eq_ok hwrite
    exact ⟨text, place, executable, htext, hinspect⟩

/-- A store that was saved is found as it was. -/
theorem storeAt_of_save (h : (store.save path : StoreM Unit).run machine = (.ok (), after)) :
    after.storeAt path = .ok store := by
  obtain ⟨text, place, executable, htext, hinspect⟩ := inspect_of_save h
  obtain ⟨hcontains, hread⟩ := Files.readText_of_inspect hinspect
  exact storeAt_of_text hcontains hread (Store.ofText?_text htext)

/-- A path of one name. -/
def storePath : Path := .ofText "store.toml"

/-- A store that can be written down is saved under a name that is not taken. -/
theorem run_save_storePath (machine : Machine) (htext : store.text? = some text)
    (hdirectory : machine.files.get? machine.directory = some .directory)
    (hnone : machine.files.get? (machine.directory ++ [storePath.units]) = none) :
    ∃ after, (store.save storePath : StoreM Unit).run machine = (.ok (), after) := by
  have hparent : storePath.parent? = some ⟨[]⟩ := by decide
  have hmade := Files.makeDirectories_empty machine.files machine.directory
  have hfind : machine.files.find .write machine.directory storePath =
      .ok (.vacant (machine.directory ++ [storePath.units])) := by
    rw [Files.find, if_neg (by decide), if_neg (by decide), if_neg (by decide)]
    exact Files.walk_new_entry hdirectory (by decide) hnone
  exact ⟨_, run_save_of_way hparent hmade htext (Files.writeText_of_vacant hfind text)⟩

/-- A machine without files or terminals, whose clock stands still. -/
def bare : Machine where
  files := .empty
  directory := []
  env := .empty
  accountHome := none
  isTerminal := fun _ => false
  clock := fun _ => .epoch
  readings := 0
  nextScript := 0
  events := []

end Machine

namespace Store

/-- A store that was saved is loaded as it was. -/
theorem load_of_save (store : Store) (path : Path) (machine after : Machine)
    (h : (store.save path : StoreM Unit).run machine = (.ok (), after)) :
    (load path : StoreM Store).run after = (.ok store, after) := by
  rw [Machine.run_load, Machine.storeAt_of_save h]

/-- A store whose texts are hard to write: quotes of both kinds, line ends, control
characters, a leap second and a year before the first. -/
def intricate : Store where
  version := 7
  tags := .ofList ["\"", "'\\", "a\nb"]
  workspaces :=
    [⟨"it's \"odd\"", "\r\n\t\x00", .ofText "/a b",
      ⟨59, 1999999999, by decide, by decide, by decide⟩,
      ⟨-62198755200, 5, by decide, by decide, by decide⟩, .epoch, .ofList ["a\nb"]⟩,
    ⟨"", "\"\"\"'''", .ofText "", .epoch, .epoch, .epoch, .ofList ["\"", "'\\"]⟩]

theorem load_of_save_intricate :
    ∃ after, (intricate.save Machine.storePath : StoreM Unit).run Machine.bare = (.ok (), after) ∧
      (load Machine.storePath : StoreM Store).run after = (.ok intricate, after) := by
  have htext : ∃ text, intricate.text? = some text := ⟨_, rfl⟩
  obtain ⟨text, htext⟩ := htext
  obtain ⟨after, hsave⟩ := Machine.bare.run_save_storePath htext rfl rfl
  exact ⟨after, hsave, load_of_save intricate _ Machine.bare _ hsave⟩

end Store

end Workspaces
