import Workspaces.Proofs.PlainWays
import Workspaces.Proofs.UnchangedFiles

/-!
# The store over many commands

Commands run one after the other, and each of them finds the store that the last one
left.  A command that saves writes what keeps the store it found, and one that fails at
saving has made directories at most.  So whatever was remembered stays remembered,
however many commands are run and however they end.  Only the way to a store that is not
found has to be plain: directories that are made on another way can bring its path to a
store that was there all along, and that is then overwritten, or to what is no store.
-/

namespace Workspaces

variable {before after : Machine} {path : Path} {session : Session} {store : Store}

/-! ## Paths on files that were added to -/

namespace Machine

theorem contains_of_inspect {place : Location} {node : Node}
    (h : after.files.inspect after.directory path = .ok (place, node)) :
    after.contains path = true := by
  rw [contains, Files.contains, h]

theorem storeAt_of_absent (h : before.contains path = false) :
    before.storeAt path = .ok .empty := by
  rw [storeAt, if_neg (by simpa [contains] using h)]

/-- What a path leads to is what it led to before files were added. -/
theorem OnlyAdds.storeAt (h : before.OnlyAdds after) (hcontains : before.contains path = true) :
    after.contains path = true ∧ after.storeAt path = before.storeAt path := by
  rw [contains, Files.contains] at hcontains
  cases hinspect : before.files.inspect before.directory path with
  | error fault =>
      rw [hinspect] at hcontains
      cases hcontains
  | ok found =>
      have hlater := Files.inspect_of_extends hinspect h.files
      rw [← h.directory] at hlater
      refine ⟨contains_of_inspect hlater, ?_⟩
      rw [Machine.storeAt, Machine.storeAt, Files.contains, Files.contains, Files.readText,
        Files.readText, hinspect, hlater]

/-! ## What is remembered -/

/-- What is remembered under the path stays remembered, and the file stays if it is there. -/
structure Remembers (path : Path) (before after : Machine) : Prop where
  contains : before.contains path = true → after.contains path = true
  store : ∀ store, before.storeAt path = .ok store →
    ∃ later, after.storeAt path = .ok later ∧ store.IsKeptIn later

instance (path : Path) : IsPreorder Machine (Remembers path) where
  refl machine := ⟨id, fun store hstore => ⟨store, hstore, .refl store⟩⟩
  trans := by
    intro first second third hfirst hsecond
    refine ⟨fun h => hsecond.contains (hfirst.contains h), ?_⟩
    intro store hstore
    obtain ⟨middle, hmiddle, hkept⟩ := hfirst.store store hstore
    obtain ⟨later, hlater, hlast⟩ := hsecond.store middle hmiddle
    exact ⟨later, hlater, hkept.trans hlast⟩

theorem Remembers.of_storeAt (hcontains : before.contains path = true → after.contains path = true)
    (hstore : after.storeAt path = before.storeAt path) : Remembers path before after := by
  refine ⟨hcontains, ?_⟩
  intro store hfound
  exact ⟨store, hstore.trans hfound, .refl store⟩

theorem SameFiles.contains (h : before.SameFiles after) (path : Path) :
    after.contains path = before.contains path := by
  rw [Machine.contains, Machine.contains, h.files, h.directory]

theorem SameFiles.remembers (h : before.SameFiles after) (path : Path) :
    Remembers path before after :=
  .of_storeAt (fun hcontains => (h.contains path).trans hcontains) (h.storeAt path)

theorem SameFiles.withWay (h : before.SameFiles after) (path : Path) :
    (before.withWay path).SameFiles (after.withWay path) := by
  rw [Machine.withWay, Machine.withWay]
  split
  · exact h
  · exact ⟨by simp only [h.files, h.directory], h.directory⟩

theorem SameFiles.hasPlainWay (h : before.SameFiles after) (hway : before.HasPlainWay path) :
    after.HasPlainWay path := by
  intro habsent
  rw [(h.withWay path).contains]
  exact hway ((h.contains path).symm.trans habsent)

theorem onlyAdds_withWay (machine : Machine) (path : Path) :
    machine.OnlyAdds (machine.withWay path) :=
  ⟨machine.extends_withWay path, machine.directory_withWay path⟩

/-- Directories on a plain way do not change what a path leads to. -/
theorem HasPlainWay.storeAt (h : before.HasPlainWay path) :
    (before.withWay path).contains path = before.contains path ∧
      (before.withWay path).storeAt path = before.storeAt path := by
  cases hcontains : before.contains path with
  | true => exact (before.onlyAdds_withWay path).storeAt hcontains
  | false =>
      have habsent := h hcontains
      exact ⟨habsent, by rw [storeAt_of_absent habsent, storeAt_of_absent hcontains]⟩

theorem HasPlainWay.remembers (h : before.HasPlainWay path) :
    Remembers path before (before.withWay path) :=
  .of_storeAt (fun hcontains => h.storeAt.1.trans hcontains) h.storeAt.2

end Machine

/-! ## One command -/

/-- Saving what keeps the store of the session keeps what is remembered, also if it fails, and
leaves the file where it saved it. -/
theorem Session.remembers_save (session : Session) {machine : Machine} {α : Type}
    {changed : Except StoreError α × Store}
    (hstore : machine.storeAt session.storeFile = .ok session.store)
    (hway : machine.HasPlainWay session.storeFile) (hkept : session.store.IsKeptIn changed.2) :
    machine.Remembers session.storeFile
        ((session.save changed : CommandM Unit).run machine).2 ∧
      (((session.save changed : CommandM Unit).run machine).1 = .ok () →
        ((session.save changed : CommandM Unit).run machine).2.contains session.storeFile =
          true) := by
  obtain ⟨error | answer, store⟩ := changed
  · rw [session.run_save_of_error]
    exact ⟨refl machine, by rintro ⟨⟩⟩
  rcases session.run_save answer store machine with ⟨error, hsave⟩ | ⟨files, hstored, hsave⟩
  · rw [hsave]
    exact ⟨hway.remembers, by rintro ⟨⟩⟩
  · rw [hsave]
    obtain ⟨_, _, _, _, hinspect⟩ := Machine.inspect_of_save hstored
    have hcontains := Machine.contains_of_inspect hinspect
    refine ⟨⟨fun _ => hcontains, ?_⟩, fun _ => hcontains⟩
    intro found hfound
    rw [hstore] at hfound
    cases hfound
    exact ⟨store, Machine.storeAt_of_save hstored, hkept⟩

/-- A run that saves once remembers the store that it found. -/
theorem SavesOnce.remembers {action : CommandM Unit} (h : SavesOnce session action)
    {machine : Machine} (hstore : machine.storeAt session.storeFile = .ok session.store)
    (hway : machine.HasPlainWay session.storeFile) :
    machine.Remembers session.storeFile (action.run machine).2 := by
  induction h generalizing machine with
  | reads h => exact (h.same machine).remembers _
  | @looks _ action next haction _ ih =>
      have hsame := haction.same machine
      cases hrun : action.run machine with
      | mk result middle =>
          rw [hrun] at hsame
          cases result with
          | error error =>
              rw [Machine.run_bind_of_error hrun]
              exact hsame.remembers _
          | ok value =>
              rw [Machine.run_bind_of_ok hrun]
              have hlater := ih value ((hsame.storeAt _).trans hstore) (hsame.hasPlainWay hway)
              exact IsTrans.trans _ _ _ (hsame.remembers _) hlater
  | @saves _ changed rest hkept hrest _ =>
      obtain ⟨hremembers, hcontains⟩ := session.remembers_save hstore hway hkept
      cases hsave : (session.save changed : CommandM Unit).run machine with
      | mk result saved =>
          rw [hsave] at hremembers hcontains
          cases result with
          | error error =>
              rw [Machine.run_bind_of_error hsave]
              exact hremembers
          | ok value =>
              rw [Machine.run_bind_of_ok hsave]
              -- What is added after the saving leaves the saved file alone.
              obtain ⟨hlater, hsame⟩ := (hrest saved).storeAt (hcontains rfl)
              exact IsTrans.trans _ _ _ hremembers (.of_storeAt (fun _ => hlater) hsame)

/-- The path is where a command keeps its store, if it finds its settings. -/
def Machine.KeepsStoreAt (machine : Machine) (path : Path) : Prop :=
  ∀ settings other, machine.foundSettings = .ok settings →
    machine.storeFileOf settings = .ok other → other = path

/-- Whatever command is run, and however it ends, the store is remembered. -/
theorem remembers_run (command : Command) {machine : Machine} (hpath : machine.KeepsStoreAt path)
    (hway : command.isReading = false → machine.HasPlainWay path) :
    machine.Remembers path ((command.run : CommandM Unit).run machine).2 := by
  by_cases hreading : command.isReading = true
  · exact ((reads_run command hreading).same machine).remembers path
  rw [run_command]
  cases hsession : machine.foundSession with
  | error failure => exact refl machine
  | ok session =>
      obtain ⟨hsettings, hfile, hstore⟩ := Machine.foundSession_eq_ok_iff.mp hsession
      have hsame : session.storeFile = path := hpath _ _ hsettings hfile
      subst hsame
      exact (savesOnce_runIn session command).remembers hstore (hway (by simpa using hreading))

/-! ## Many commands -/

/-- Commands that keep their store under one path are run one after the other.  What else is
done between them leaves the store under the path as it is.  Where a command that saves does
not find the store, the way to it is plain. -/
inductive StoreHistory (path : Path) (start : Machine) : Machine → Prop
  | refl : StoreHistory path start start
  | command {machine : Machine} (h : StoreHistory path start machine) (command : Command)
      (hpath : machine.KeepsStoreAt path)
      (hway : command.isReading = false → machine.HasPlainWay path) :
      StoreHistory path start ((command.run : CommandM Unit).run machine).2
  | elsewhere {machine later : Machine} (h : StoreHistory path start machine)
      (hcontains : later.contains path = machine.contains path)
      (hstore : later.storeAt path = machine.storeAt path) : StoreHistory path start later

theorem StoreHistory.remembers {start : Machine} (h : StoreHistory path start after) :
    start.Remembers path after := by
  induction h with
  | refl => exact .of_storeAt id rfl
  | command _ command hpath hway ih =>
      exact IsTrans.trans _ _ _ ih (remembers_run command hpath hway)
  | elsewhere _ hcontains hstore ih =>
      exact IsTrans.trans _ _ _ ih (.of_storeAt (fun h => hcontains.trans h) hstore)

/-- However many commands are run on a store, and however they end: the store still loads, or is
absent still.  Its version is the same, its tags are listed still, and its workspaces are
at their places with their names, descriptions, paths, times of creation and tags. -/
theorem history_remembers_store {start : Machine} (h : StoreHistory path start after)
    (hstore : start.storeAt path = .ok store) :
    (start.contains path = true → after.contains path = true) ∧
      ∃ later, after.storeAt path = .ok later ∧ store.IsKeptIn later :=
  ⟨h.remembers.contains, h.remembers.store store hstore⟩

namespace Machine

theorem keepsStoreAt_of_defaults {machine : Machine}
    (hsettings : machine.foundSettings = .ok Settings.defaults)
    (hfile : machine.storeFileOf Settings.defaults = .ok path) : machine.KeepsStoreAt path := by
  intro settings other hfound hother
  rw [hsettings] at hfound
  cases hfound
  rw [hfile] at hother
  exact (Except.ok.inj hother).symm

/-- A machine where nothing was ever saved. -/
def fresh : Machine :=
  { bare with env := (Table.empty.insert "XDG_CONFIG_HOME" "/c").insert "XDG_STATE_HOME" "/s" }

def freshPath : Path := .ofText "/s/desktop/desktop.toml"

theorem isTree_fresh : fresh.files.IsTree := by
  intro location piece h
  exact absurd (if_neg (by simp)) h

end Machine

/-- A new tag is made if the store can be saved with it, and then nothing else is done. -/
theorem run_newTag {machine saved : Machine} {tag : String} {tagged : Store}
    (hsession : machine.foundSession = .ok session)
    (hadds : session.store.addTag tag = (.ok (), tagged))
    (hsave : (tagged.save session.storeFile : StoreM Unit).run machine = (.ok (), saved)) :
    ∃ after, ((Command.tags (.new tag)).run : CommandM Unit).run machine = (.ok (), after) ∧
      saved.SameFiles after := by
  have hstart : ((Command.tags (.new tag)).run : CommandM Unit).run machine =
      (session.createTag tag : CommandM Unit).run machine := by
    rw [run_command, hsession]
    rfl
  have hstep := session.run_save_of_ok () tagged machine
  rw [hsave] at hstep
  rw [hstart, Session.createTag, hadds, Machine.run_bind_of_ok hstep, run_tell]
  exact ⟨_, rfl, rfl, rfl⟩

namespace Machine

def taggedApi : Store := { apiStore with tags := .ofList ["go", "rust"] }

theorem keepsStoreAt_withApi (contents : List TextUnit) :
    (withApi contents).KeepsStoreAt freshPath :=
  have hpaths := paths_withApi contents
  keepsStoreAt_of_defaults hpaths.1 hpaths.2.1

theorem contains_withApi (contents : List TextUnit) :
    (withApi contents).contains freshPath = true :=
  contains_of_inspect (paths_withApi contents).2.2.1

/-- A tag is added to the store in the file. -/
theorem exists_run_newTag_apiMachine :
    ∃ text after, taggedApi.text? = some text ∧
      ((Command.tags (.new "go")).run : CommandM Unit).run apiMachine = (.ok (), after) ∧
      (withApi (TextUnit.ofText text)).SameFiles after := by
  obtain ⟨text, htext⟩ : ∃ text, taggedApi.text? = some text := ⟨_, rfl⟩
  have hadds : apiSession.store.addTag "go" = (.ok (), taggedApi) := by decide
  have hsave := run_save_withApi _ (refl apiMachine) htext
  obtain ⟨after, hrun, hsame⟩ := run_newTag foundSession_apiMachine hadds hsave
  exact ⟨text, after, htext, hrun, hsame.files, hsame.directory⟩

set_option maxRecDepth 10000 in
theorem keepsStoreAt_fresh : fresh.KeepsStoreAt freshPath ∧ fresh.contains freshPath = false := by
  refine ⟨keepsStoreAt_of_defaults ?_ ?_, ?_⟩ <;> cbv

end Machine

/-- A tag is made in a store with a workspace and another tag, and then the workspace is started.
And a tag is made where nothing was saved before. -/
theorem history_remembers_store_api :
    (∃ after later, StoreHistory Machine.freshPath Machine.apiMachine after ∧
      after.storeAt Machine.freshPath = .ok later ∧ Machine.apiStore.IsKeptIn later) ∧
    ∃ after later, StoreHistory Machine.freshPath Machine.fresh after ∧
      after.storeAt Machine.freshPath = .ok later ∧ Store.empty.IsKeptIn later := by
  constructor
  · obtain ⟨text, tagged, htext, hrun, hsame⟩ := Machine.exists_run_newTag_apiMachine
    have hplain (contents : List TextUnit) :
        (Machine.withApi contents).HasPlainWay Machine.freshPath := by
      intro habsent
      rw [Machine.contains_withApi] at habsent
      cases habsent
    have hpath : Machine.apiMachine.KeepsStoreAt Machine.freshPath :=
      Machine.keepsStoreAt_withApi _
    have hfirst : StoreHistory Machine.freshPath Machine.apiMachine tagged := by
      have hstep := StoreHistory.refl.command (.tags (.new "go")) hpath fun _ => hplain _
      rwa [hrun] at hstep
    have hbetween : StoreHistory Machine.freshPath Machine.apiMachine
        (Machine.withApi (TextUnit.ofText text)) :=
      hfirst.elsewhere (hsame.contains _).symm (hsame.storeAt _).symm
    have hlast := hbetween.command (.go "api" (some "dev")) (Machine.keepsStoreAt_withApi _)
      fun _ => hplain _
    have hstore := (Machine.foundSession_eq_ok_iff.mp Machine.foundSession_apiMachine).2.2
    obtain ⟨-, later, hlater, hkept⟩ := history_remembers_store hlast hstore
    exact ⟨_, later, hlast, hlater, hkept⟩
  · obtain ⟨hpath, habsent⟩ := Machine.keepsStoreAt_fresh
    have hway : Machine.fresh.HasPlainWay Machine.freshPath :=
      Machine.hasPlainWay_of_isTree Machine.isTree_fresh (by decide)
    have hhistory := StoreHistory.refl.command (.tags (.new "go")) hpath fun _ => hway
    obtain ⟨-, later, hlater, hkept⟩ :=
      history_remembers_store hhistory (Machine.storeAt_of_absent habsent)
    exact ⟨_, later, hhistory, hlater, hkept⟩

namespace Machine

/-- The way to the store goes up again from a missing directory, and from there to a node that
is not missing. -/
def detourTo (node : Node) : Machine :=
  { bare with
    env := (Table.empty.insert "XDG_CONFIG_HOME" "/c").insert "XDG_STATE_HOME" "/s/.."
    files := ⟨[
      (["desktop", "desktop.toml"].map TextUnit.ofText, node),
      ([TextUnit.ofText "desktop"], .directory)]⟩ }

def detourPath : Path := .ofText "/s/../desktop/desktop.toml"

/-- What that path leads to as soon as the directory is there. -/
def plainPath : Path := .ofText "/desktop/desktop.toml"

/-- The files after the missing directory is made. -/
def detourWay (node : Node) : Files := (detourTo node).files.set [TextUnit.ofText "s"] .directory

set_option maxRecDepth 10000 in
/-- The store is looked for where nothing is found, and is saved where something is. -/
theorem paths_detourTo (contents saved : List TextUnit) :
    (detourTo (.file contents false)).foundSettings = .ok Settings.defaults ∧
      (detourTo (.file contents false)).storeFileOf Settings.defaults = .ok detourPath ∧
      (detourTo (.file contents false)).contains detourPath = false ∧
      (detourTo (.file contents false)).files.inspect [] plainPath =
        .ok (["desktop", "desktop.toml"].map TextUnit.ofText, .file contents false) ∧
      (detourTo (.file contents false)).files.makeDirectories [] (.ofText "/s/../desktop") =
        (.ok (), detourWay (.file contents false)) ∧
      (detourWay (.file contents false)).find .write [] detourPath =
        .ok (.occupied (["desktop", "desktop.toml"].map TextUnit.ofText) (.file contents false)) ∧
      ((detourWay (.file contents false)).set (["desktop", "desktop.toml"].map TextUnit.ofText)
          (.file saved false)).inspect [] plainPath =
        .ok (["desktop", "desktop.toml"].map TextUnit.ofText, .file saved false) := by
  refine ⟨?_, ?_, ?_, ?_, ?_, ?_, ?_⟩ <;> cbv

/-- The tag is made in an empty store, which is saved over the one that is there. -/
theorem run_newTag_detourTo (contents : List TextUnit) :
    ∃ after, ((Command.tags (.new "go")).run : CommandM Unit).run
        (detourTo (.file contents false)) = (.ok (), after) ∧
      after.storeAt detourPath = .ok ⟨1, .ofList ["go"], []⟩ ∧
      after.storeAt plainPath = .ok ⟨1, .ofList ["go"], []⟩ := by
  obtain ⟨text, htext⟩ : ∃ text, Store.text? ⟨1, .ofList ["go"], []⟩ = some text := ⟨_, rfl⟩
  obtain ⟨hsettings, hfile, habsent, -, hway, hfind, hinspect⟩ :=
    paths_detourTo contents (TextUnit.ofText text)
  have hsession : (detourTo (.file contents false)).foundSession =
      .ok ⟨Settings.defaults, .empty, detourPath⟩ :=
    foundSession_eq_ok_iff.mpr ⟨hsettings, hfile, storeAt_of_absent habsent⟩
  have hparent : detourPath.parent? = some (.ofText "/s/../desktop") := by decide
  have hwrite := Files.writeText_of_occupied hfind text
  have hsave := run_save_of_way hparent hway htext hwrite
  have hadds : Store.empty.addTag "go" = (.ok (), ⟨1, .ofList ["go"], []⟩) := by decide
  obtain ⟨after, hrun, hsame⟩ := run_newTag hsession hadds hsave
  refine ⟨after, hrun, ?_, ?_⟩
  · rw [hsame.storeAt]
    exact storeAt_of_save hsave
  · rw [hsame.storeAt]
    obtain ⟨hcontains, hread⟩ := Files.readText_of_inspect hinspect
    exact storeAt_of_text hcontains hread (Store.ofText?_text htext)

end Machine

set_option maxRecDepth 10000 in
/-- A store with a workspace and a tag is there, but is not found as long as a directory on its
way is missing.  Saving makes the directory, and then writes over the store.  If what is there
is a directory, saving fails, and the path of a store that was absent then leads to something
that is no store. -/
theorem history_breaks_at_detour :
    (∃ machine after later,
      machine.KeepsStoreAt Machine.detourPath ∧ machine.contains Machine.detourPath = false ∧
        machine.storeAt Machine.plainPath = .ok Machine.apiStore ∧
        ((Command.tags (.new "go")).run : CommandM Unit).run machine = (.ok (), after) ∧
        after.storeAt Machine.detourPath = .ok later ∧
        after.storeAt Machine.plainPath = .ok later ∧ ¬ Machine.apiStore.IsKeptIn later) ∧
    ∃ machine, machine.KeepsStoreAt Machine.detourPath ∧
      machine.contains Machine.detourPath = false ∧
      machine.storeAt Machine.detourPath = .ok .empty ∧
      (((Command.tags (.new "go")).run : CommandM Unit).run machine).2.contains
        Machine.detourPath = true ∧
      (((Command.tags (.new "go")).run : CommandM Unit).run machine).2.storeAt
          Machine.detourPath =
        .error (.unreadable Machine.detourPath .isADirectory) := by
  constructor
  · obtain ⟨hsettings, hfile, habsent, hinspect, -⟩ :=
      Machine.paths_detourTo (TextUnit.ofText Machine.apiStoreText) []
    obtain ⟨after, hrun, hdetour, hplain⟩ :=
      Machine.run_newTag_detourTo (TextUnit.ofText Machine.apiStoreText)
    refine ⟨_, after, _, Machine.keepsStoreAt_of_defaults hsettings hfile, habsent, ?_, hrun,
      hdetour, hplain, ?_⟩
    · obtain ⟨hcontains, hread⟩ := Files.readText_of_inspect hinspect
      exact Machine.storeAt_of_text hcontains hread (Store.ofText?_text Machine.text?_apiStore)
    · intro hkept
      have hlost := hkept.tags "rust" (by decide)
      revert hlost
      decide
  · refine ⟨Machine.detourTo .directory, Machine.keepsStoreAt_of_defaults ?_ ?_, ?_, ?_, ?_, ?_⟩ <;>
      cbv

end Workspaces
