import Workspaces.Proofs.SavedStore
import Workspaces.Proofs.WellFormed

/-!
# Runs of store operations

A store is held while operations are done on it, one after the other and each with
a reading of the clock where one is needed.  It may be saved, and a file that was
saved in the same run may be loaded again.  A run goes on with the store that an
operation leaves, also where it fails.  What holds of the store and of every file that
was saved is kept by each step, so it holds however long the run is.
-/

namespace Workspaces

/-! ## Operations -/

inductive StoreOperation where
  | addWorkspace (name description : String) (path : Path)
  | touch (name : String)
  | addTag (tag : String)
  | tagWorkspace (name tag : String)
  | save (path : Path)
  | load (path : Path)

namespace StoreOperation

/-- What an operation answers on a store, and the store that it leaves.  Saving only reads the
store, and what is loaded takes its place once it is there. -/
def perform [Monad m] [Host m] (store : Store) :
    StoreOperation → m (Except StoreError Unit × Store)
  | addWorkspace name description path => do
    let (answer, after) := store.addWorkspace (← Host.now) name description path
    return (answer.map fun _ => (), after)
  | touch name => do return store.touch (← Host.now) name
  | addTag tag => return store.addTag tag
  | tagWorkspace name tag => do return store.tagWorkspace (← Host.now) name tag
  | save path => do return (← (store.save path).run, store)
  | load path => do
    match ← (Store.load path).run with
    | .error error => return (.error error, store)
    | .ok loaded => return (.ok (), loaded)

end StoreOperation

/-- How far a run has come. -/
structure StoreRun where
  machine : Machine
  store : Store
  /-- Where the files stand that were saved. -/
  saved : List Location

namespace StoreRun

/-- A run that has not done anything. -/
def start (machine : Machine) : StoreRun := ⟨machine, .empty, []⟩

/-- What an operation answers in a run, the store that it leaves and the machine after it. -/
def perform (run : StoreRun) (operation : StoreOperation) :
    (Except StoreError Unit × Store) × Machine :=
  (operation.perform run.store : StateM Machine _).run run.machine

/-- The places where an operation that succeeded left a saved store. -/
def placesOf (machine : Machine) : StoreOperation → List Location
  | .save path =>
    match machine.files.inspect machine.directory path with
    | .ok (place, _) => [place]
    | .error _ => []
  | _ => []

/-- The run after one more operation, with the store that the operation leaves. -/
def next (run : StoreRun) (operation : StoreOperation) : StoreRun :=
  match run.perform operation with
  | ((.ok _, store), machine) => ⟨machine, store, placesOf machine operation ++ run.saved⟩
  | ((.error _, store), machine) => ⟨machine, store, run.saved⟩

/-- Only files that were saved in the run are loaded. -/
def Admits (run : StoreRun) : StoreOperation → Prop
  | .load path => ∃ place ∈ run.saved, ∃ node,
      run.machine.files.inspect run.machine.directory path = .ok (place, node)
  | _ => True

/-- What can be reached from a run. -/
inductive Reaches (run : StoreRun) : StoreRun → Prop
  | refl : Reaches run run
  | step {later operation} (hreach : Reaches run later) (hadmits : later.Admits operation) :
      Reaches run (later.next operation)

end StoreRun

/-! ## What a run keeps -/

namespace Machine

/-- What the clock said last. -/
def lastReading (machine : Machine) : Instant := machine.clock (machine.readings - 1)

/-- The clock never goes backwards. -/
def HasSteadyClock (machine : Machine) : Prop :=
  ∀ first second, first ≤ second → machine.clock first ≤ machine.clock second

end Machine

/-- A store that is well-formed and dated by a time. -/
structure Store.IsSoundAt (store : Store) (now : Instant) : Prop where
  wellFormed : store.IsWellFormed
  dated : store.IsDatedBy now

/-- A file that holds a sound store. -/
def Files.HoldsSound (files : Files) (now : Instant) (place : Location) : Prop :=
  ∃ text executable store, files.get? place = some (.file (TextUnit.ofText text) executable) ∧
    Store.ofText? text = some store ∧ store.IsSoundAt now

theorem Store.IsSoundAt.mono {store : Store} {now later : Instant} (hstore : store.IsSoundAt now)
    (h : now ≤ later) : store.IsSoundAt later :=
  ⟨hstore.wellFormed, hstore.dated.mono h⟩

theorem Files.HoldsSound.mono {before after : Files} {now later : Instant} {place : Location}
    (hholds : before.HoldsSound now place) (hextends : before.Extends after) (h : now ≤ later) :
    after.HoldsSound later place := by
  obtain ⟨text, executable, store, hfile, htext, hstore⟩ := hholds
  exact ⟨text, executable, store, hextends _ _ hfile, htext, hstore.mono h⟩

namespace StoreRun

/-- The invariant: the store is sound, and so are all that were saved. -/
structure IsSound (run : StoreRun) : Prop where
  steady : run.machine.HasSteadyClock
  store : run.store.IsSoundAt run.machine.lastReading
  saved : ∀ place ∈ run.saved, run.machine.files.HoldsSound run.machine.lastReading place

variable {run later : StoreRun} {operation : StoreOperation} {machine after : Machine}
  {store : Store} {path : Path} {place : Location}

theorem machine_next (run : StoreRun) (operation : StoreOperation) :
    (run.next operation).machine = (run.perform operation).2 := by
  rw [next]
  split <;> rename_i h <;> rw [h]

theorem store_next (run : StoreRun) (operation : StoreOperation) :
    (run.next operation).store = (run.perform operation).1.2 := by
  rw [next]
  split <;> rename_i h <;> rw [h]

/-- What an operation answers in a run. -/
def answer (run : StoreRun) (operation : StoreOperation) : Except StoreError Unit :=
  (run.perform operation).1.1

theorem perform_addWorkspace (run : StoreRun) (name description : String) (path : Path) :
    (run.perform (.addWorkspace name description path)).1 =
      ((run.store.addWorkspace (run.machine.clock run.machine.readings) name description path).1.map
          fun _ => (),
        (run.store.addWorkspace (run.machine.clock run.machine.readings) name description path).2) :=
  rfl

/-! ### Loading and saving -/

theorem perform_load (run : StoreRun) (path : Path) :
    run.perform (.load path) =
      match run.machine.storeAt path with
      | .error error => ((.error error, run.store), run.machine)
      | .ok loaded => ((.ok (), loaded), run.machine) := by
  have hload : StateT.run (Store.load path : StoreM Store).run run.machine =
      (run.machine.storeAt path, run.machine) :=
    Machine.run_load path run.machine
  rw [perform, StoreOperation.perform, StateT.run_bind, hload]
  cases run.machine.storeAt path <;> rfl

/-- How saving in a run ends. -/
theorem perform_save (run : StoreRun) (path : Path) :
    (∃ error, run.perform (.save path) =
        ((.error error, run.store), run.machine.withWay path)) ∨
      ∃ text files, run.store.text? = some text ∧
        (run.machine.withWay path).files.writeText (run.machine.withWay path).directory path text =
          .ok files ∧
        run.perform (.save path) =
          ((.ok (), run.store), { run.machine.withWay path with files := files }) := by
  have hperform : run.perform (.save path) =
      let (answer, machine) := (run.store.save path : StoreM Unit).run run.machine
      ((answer, run.store), machine) := rfl
  rw [hperform]
  rcases run.machine.run_save run.store path with
    ⟨error, hsave⟩ | ⟨text, files, htext, hwrite, hsave⟩
  · rw [hsave]
    exact .inl ⟨error, rfl⟩
  · rw [hsave]
    rw [← run.machine.directory_withWay path] at hwrite
    exact .inr ⟨text, files, htext, hwrite, rfl⟩

/-! ### Failing -/

/-- An operation that fails leaves the store as it was, also those on files. -/
theorem store_next_of_error {error : StoreError} (h : run.answer operation = .error error) :
    (run.next operation).store = run.store := by
  rw [store_next]
  rw [answer] at h
  cases operation with
  | addWorkspace name description path =>
      rw [perform_addWorkspace] at h ⊢
      generalize run.machine.clock run.machine.readings = now at h ⊢
      cases hadded : (run.store.addWorkspace now name description path).1 with
      | error reason => exact Store.addWorkspace_eq_error (Prod.ext hadded rfl)
      | ok workspace =>
          rw [hadded] at h
          cases h
  | touch name => exact Store.update_eq_error (Prod.ext h rfl)
  | addTag tag => exact Store.addTag_eq_error (Prod.ext h rfl)
  | tagWorkspace name tag => exact Store.tagWorkspace_eq_error (Prod.ext h rfl)
  | save path =>
      rcases run.perform_save path with ⟨_, hperform⟩ | ⟨_, _, _, _, hperform⟩ <;> rw [hperform]
  | load path =>
      rw [run.perform_load path] at h ⊢
      cases hfound : run.machine.storeAt path with
      | error error => rfl
      | ok loaded =>
          rw [hfound] at h
          cases h

/-! ### Places -/

theorem mem_placesOf_save {place : Location} (h : place ∈ placesOf after (.save path)) :
    ∃ node, after.files.inspect after.directory path = .ok (place, node) := by
  rw [placesOf] at h
  split at h
  · rename_i target node hinspect
    rw [List.mem_singleton.mp h]
    exact ⟨node, hinspect⟩
  · cases h

/-- A file that a sound store was written to holds it, and the other files hold what they held. -/
theorem holdsSound_write {files written : Files} {location : Location} {text : String}
    (h : files.writeText location path text = .ok written)
    (htext : Store.ofText? text = some store) {now : Instant} (hstore : store.IsSoundAt now) :
    ∀ place, (files.HoldsSound now place ∨
      ∃ node, written.inspect location path = .ok (place, node)) →
        written.HoldsSound now place := by
  obtain ⟨target, executable, htakes, rfl, hinspect⟩ := Files.write_eq_ok h
  have htarget : (files.set target (.file (TextUnit.ofText text) executable)).HoldsSound now
      target :=
    ⟨text, executable, store, Files.get?_of_inspect hinspect, htext, hstore⟩
  rintro place (⟨old, was, earlier, hfile, hrest⟩ | ⟨node, hplace⟩)
  · by_cases hsame : place = target
    · exact hsame ▸ htarget
    · refine ⟨old, was, earlier, ?_, hrest⟩
      rw [Files.get?_set files _ place htakes.ne_root, if_neg hsame, hfile]
  · rw [hinspect] at hplace
    cases hplace
    exact htarget

/-! ### One step, and many -/

theorem isSound_start (h : machine.HasSteadyClock) : (start machine).IsSound where
  steady := h
  store := ⟨.empty, .empty _⟩
  saved := by rintro place ⟨⟩

namespace IsSound

/-- A machine on which time went on and nothing was changed that was there. -/
theorem advance (h : run.IsSound) (hclock : after.clock = run.machine.clock)
    (htime : run.machine.lastReading ≤ after.lastReading)
    (hextends : run.machine.files.Extends after.files)
    (hstore : store.IsSoundAt after.lastReading) : IsSound ⟨after, store, run.saved⟩ where
  steady := by
    rw [Machine.HasSteadyClock, hclock]
    exact h.steady
  store := hstore
  saved := fun place hplace => (h.saved place hplace).mono hextends htime

theorem next_of_perform (h : run.IsSound) {answer : Except StoreError Unit}
    (hperform : run.perform operation = ((answer, store), after))
    (hclock : after.clock = run.machine.clock)
    (htime : run.machine.lastReading ≤ after.lastReading)
    (hextends : run.machine.files.Extends after.files)
    (hplaces : placesOf after operation = [])
    (hstore : store.IsSoundAt after.lastReading) : (run.next operation).IsSound := by
  have hadvance := h.advance hclock htime hextends hstore
  rw [next, hperform]
  cases answer with
  | error error => exact hadvance
  | ok _ =>
      dsimp only
      rw [hplaces]
      exact hadvance

/-- An operation on the store alone, at a reading of the clock. -/
theorem next_of_reading (h : run.IsSound) {answer : Except StoreError Unit}
    (hperform : run.perform operation =
      ((answer, store), { run.machine with readings := run.machine.readings + 1 }))
    (hplaces : ∀ after, placesOf after operation = [])
    (hstore : run.store.IsSoundAt (run.machine.clock run.machine.readings) →
      store.IsSoundAt (run.machine.clock run.machine.readings)) :
    (run.next operation).IsSound := by
  have htime : run.machine.lastReading ≤ run.machine.clock run.machine.readings :=
    h.steady _ _ (Nat.sub_le _ _)
  exact h.next_of_perform hperform rfl htime (.refl _) (hplaces _) (hstore (h.store.mono htime))

theorem next_addWorkspace (h : run.IsSound) (name description : String) (path : Path) :
    (run.next (.addWorkspace name description path)).IsSound :=
  h.next_of_reading rfl (fun _ => rfl) fun hstore =>
    ⟨hstore.wellFormed.addWorkspace _ _ _ _, hstore.dated.addWorkspace _ _ _⟩

theorem next_touch (h : run.IsSound) (name : String) : (run.next (.touch name)).IsSound :=
  h.next_of_reading rfl (fun _ => rfl) fun hstore =>
    ⟨hstore.wellFormed.touch _ _, hstore.dated.touch _⟩

theorem next_tagWorkspace (h : run.IsSound) (name tag : String) :
    (run.next (.tagWorkspace name tag)).IsSound :=
  h.next_of_reading rfl (fun _ => rfl) fun hstore =>
    ⟨hstore.wellFormed.tagWorkspace _ _ _, hstore.dated.tagWorkspace _ _⟩

theorem next_addTag (h : run.IsSound) (tag : String) : (run.next (.addTag tag)).IsSound :=
  h.next_of_perform rfl rfl (Instant.le_refl _) (.refl _) rfl
    ⟨h.store.wellFormed.addTag _, h.store.dated.addTag _⟩

theorem next_load (h : run.IsSound) (hadmits : run.Admits (.load path)) :
    (run.next (.load path)).IsSound := by
  obtain ⟨place, hplace, node, hinspect⟩ := hadmits
  obtain ⟨text, executable, store, hfile, htext, hstore⟩ := h.saved place hplace
  have hnode := (Files.get?_of_inspect hinspect).symm.trans hfile
  cases hnode
  obtain ⟨hcontains, hread⟩ := Files.readText_of_inspect hinspect
  have hperform := run.perform_load path
  rw [Machine.storeAt_of_text hcontains hread htext] at hperform
  exact h.next_of_perform hperform rfl (Instant.le_refl _) (.refl _) rfl hstore

theorem next_save (h : run.IsSound) (path : Path) : (run.next (.save path)).IsSound := by
  have hclock := run.machine.clock_withWay path
  have htime : (run.machine.withWay path).lastReading = run.machine.lastReading := by
    rw [Machine.lastReading, Machine.lastReading, hclock, run.machine.readings_withWay]
  have hway : IsSound ⟨run.machine.withWay path, run.store, run.saved⟩ :=
    h.advance hclock (htime ▸ Instant.le_refl _) (run.machine.extends_withWay path)
      (htime ▸ h.store)
  rcases run.perform_save path with ⟨error, hperform⟩ | ⟨text, files, htext, hwrite, hperform⟩
  · rw [StoreRun.next, hperform]
    exact hway
  · rw [StoreRun.next, hperform]
    refine ⟨hway.steady, hway.store, ?_⟩
    intro place hplace
    apply holdsSound_write hwrite (Store.ofText?_text htext) hway.store
    rcases List.mem_append.mp hplace with hnew | hold
    · exact .inr (mem_placesOf_save hnew)
    · exact .inl (hway.saved place hold)

/-- Every step keeps the invariant, whether its operation succeeds or fails. -/
theorem next (h : run.IsSound) (hadmits : run.Admits operation) :
    (run.next operation).IsSound := by
  cases operation with
  | addWorkspace name description path => exact h.next_addWorkspace name description path
  | touch name => exact h.next_touch name
  | addTag tag => exact h.next_addTag tag
  | tagWorkspace name tag => exact h.next_tagWorkspace name tag
  | save path => exact h.next_save path
  | load path => exact h.next_load hadmits

/-- Whatever a sound run reaches is sound. -/
theorem reaches (h : run.IsSound) (hreach : run.Reaches later) : later.IsSound := by
  induction hreach with
  | refl => exact h
  | step _ hadmits ih => exact ih.next hadmits

end IsSound

/-! ## Files that were saved -/

theorem saved_subset_next (run : StoreRun) (operation : StoreOperation) :
    run.saved ⊆ (run.next operation).saved := by
  rw [next]
  split
  · exact List.subset_append_right _ _
  · exact fun _ h => h

/-- No step goes elsewhere or takes away what a path goes through. -/
theorem grows_next (run : StoreRun) (operation : StoreOperation) :
    (run.next operation).machine.directory = run.machine.directory ∧
      run.machine.files.Grows (run.next operation).machine.files := by
  have hsame : run.machine.files.Grows run.machine.files := (Files.Extends.refl _).grows
  rw [machine_next]
  cases operation with
  | addWorkspace name description path => exact ⟨rfl, hsame⟩
  | touch name => exact ⟨rfl, hsame⟩
  | addTag tag => exact ⟨rfl, hsame⟩
  | tagWorkspace name tag => exact ⟨rfl, hsame⟩
  | load path =>
      rw [run.perform_load path]
      split <;> exact ⟨rfl, hsame⟩
  | save path =>
      have hdirectory := run.machine.directory_withWay path
      have hway := (run.machine.extends_withWay path).grows
      rcases run.perform_save path with ⟨error, hperform⟩ | ⟨_, files, _, hwrite, hperform⟩
      · rw [hperform]
        exact ⟨hdirectory, hway⟩
      · rw [hperform]
        exact ⟨hdirectory, hway.trans (Files.grows_writeText hwrite)⟩

/-- A path that leads to a saved file leads there after every step. -/
theorem IsSound.admits_load_next (h : run.IsSound) (hload : run.Admits (.load path))
    (hadmits : run.Admits operation) : (run.next operation).Admits (.load path) := by
  obtain ⟨place, hplace, node, hinspect⟩ := hload
  have hsaved := run.saved_subset_next operation hplace
  obtain ⟨hdirectory, hgrows⟩ := run.grows_next operation
  obtain ⟨text, executable, store, hfile, _⟩ := (h.next hadmits).saved place hsaved
  have hlater := Files.inspect_of_grows (Files.find_of_inspect hinspect) (by decide) hgrows hfile
    (by rintro target ⟨⟩)
  rw [← hdirectory] at hlater
  exact ⟨place, hsaved, _, hlater⟩

/-- A file that was saved can be loaded from then on, however the run goes on. -/
theorem IsSound.admits_load (h : run.IsSound) (hload : run.Admits (.load path))
    (hreach : run.Reaches later) : later.Admits (.load path) := by
  induction hreach with
  | refl => exact hload
  | step hreach hadmits ih => exact (h.reaches hreach).admits_load_next ih hadmits

theorem next_save_of_ok
    (h : (run.store.save path : StoreM Unit).run run.machine = (.ok (), after)) :
    run.next (.save path) = ⟨after, run.store, placesOf after (.save path) ++ run.saved⟩ := by
  have hperform : run.perform (.save path) =
      let (answer, machine) := (run.store.save path : StoreM Unit).run run.machine
      ((answer, run.store), machine) := rfl
  rw [next, hperform, h]

/-- What was just saved can be loaded, and loading it changes nothing. -/
theorem next_load_next_save
    (h : (run.store.save path : StoreM Unit).run run.machine = (.ok (), after)) :
    (run.next (.save path)).Admits (.load path) ∧
      (run.next (.save path)).next (.load path) = run.next (.save path) := by
  rw [next_save_of_ok h]
  constructor
  · obtain ⟨text, place, executable, _, hinspect⟩ := Machine.inspect_of_save h
    refine ⟨place, ?_, _, hinspect⟩
    dsimp only
    rw [placesOf, hinspect]
    exact List.mem_append_left _ (List.mem_singleton.mpr rfl)
  · rw [next, perform_load]
    dsimp only
    rw [Machine.storeAt_of_save h]
    rfl

/-! ## The invariant -/

/-- However a run goes that begins with the empty store and a clock that never goes back:
names are distinct, tags are listed, and times are in their order and not after what the
clock said last, so not after anything that it says later. -/
theorem store_invariant (machine : Machine) (hclock : machine.HasSteadyClock) (run : StoreRun)
    (hreach : (start machine).Reaches run) :
    (run.store.workspaces.map Workspace.name).Nodup ∧
      ∀ workspace ∈ run.store.workspaces,
        (∀ tag ∈ workspace.tags, tag ∈ run.store.tags) ∧
        workspace.createdAt ≤ workspace.modifiedAt ∧
        workspace.createdAt ≤ workspace.lastUsedAt ∧
        workspace.createdAt ≤ run.machine.lastReading ∧
        workspace.modifiedAt ≤ run.machine.lastReading ∧
        workspace.lastUsedAt ≤ run.machine.lastReading := by
  obtain ⟨hwellFormed, hdated⟩ := ((isSound_start hclock).reaches hreach).store
  refine ⟨hwellFormed.names_distinct, ?_⟩
  intro workspace hworkspace
  have htimes := hdated workspace hworkspace
  exact ⟨hwellFormed.tags_listed workspace hworkspace, htimes.created_le_modified,
    htimes.created_le_used, htimes.created_le, htimes.modified_le, htimes.used_le⟩

/-- What a clock says that goes on by a second after its first reading. -/
def tick : Nat → Instant
  | 0 => .epoch
  | _ + 1 => (Instant.ofUnix? 1 0).getD .epoch

def tickingMachine : Machine := { Machine.bare with clock := tick }

theorem hasSteadyClock_tickingMachine : tickingMachine.HasSteadyClock := by
  intro first second h
  show tick first ≤ tick second
  cases first with
  | zero =>
      cases second with
      | zero => exact Instant.le_refl _
      | succ second => exact (by decide : tick 0 ≤ tick 1)
  | succ first =>
      cases second with
      | zero => cases h
      | succ second => exact Instant.le_refl _

/-- A run in which a workspace is added, tagged and used. -/
def tickingRun : StoreRun :=
  ((((start tickingMachine).next (.addTag "rust")).next
    (.addWorkspace "api" "" (.ofText "/api"))).next (.tagWorkspace "api" "rust")).next
      (.touch "api")

/-- The same run, then saved and loaded again. -/
theorem store_invariant_tickingRun :
    ∃ run, (start tickingMachine).Reaches run ∧ run.saved ≠ [] ∧
      run.store.workspaces.map Workspace.name = ["api"] ∧
      (run.store.workspaces.map Workspace.name).Nodup ∧
      ∀ workspace ∈ run.store.workspaces, workspace.createdAt ≤ workspace.modifiedAt := by
  obtain ⟨text, htext⟩ : ∃ text, tickingRun.store.text? = some text := ⟨_, rfl⟩
  obtain ⟨after, hsave⟩ := tickingRun.machine.run_save_storePath htext rfl rfl
  obtain ⟨hadmits, hload⟩ := next_load_next_save hsave
  let run := (tickingRun.next (.save Machine.storePath)).next (.load Machine.storePath)
  have hreach : (start tickingMachine).Reaches run :=
    .step (.step (.step (.step (.step (.step .refl trivial) trivial) trivial) trivial) trivial)
      hadmits
  have hstore : run.store = tickingRun.store := by
    rw [show run = _ from hload, next_save_of_ok hsave]
  have hsaved : run.saved ≠ [] := by
    obtain ⟨place, hplace, _⟩ := hadmits
    rw [show run = _ from hload]
    exact List.ne_nil_of_mem hplace
  obtain ⟨hnames, hworkspaces⟩ :=
    store_invariant tickingMachine hasSteadyClock_tickingMachine run hreach
  refine ⟨run, hreach, hsaved, ?_, hnames, fun workspace hworkspace =>
    (hworkspaces workspace hworkspace).2.1⟩
  rw [hstore]
  rfl

end StoreRun

end Workspaces
