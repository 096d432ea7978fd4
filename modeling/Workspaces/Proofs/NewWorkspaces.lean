import Workspaces.Proofs.SavingEffects
import Workspaces.Proofs.StoreHistory

/-!
# How remembering a directory ends

A new workspace is remembered in two steps: the store is saved with one more record, and
then a Desktopfile to start from is written if there is none.  Whatever fails up to the
saving leaves the store as it was, and at most makes directories on the way to it.  The
second step can fail too, if the path of the Desktopfile leads to nothing and cannot be
written: the command fails, but the workspace is remembered, and the same command is
refused from then on.
-/

namespace Workspaces

variable {machine saved after : Machine} {path : Path} {store : Store}

/-- A store with one more workspace, after all others. -/
def Store.withWorkspace (store : Store) (workspace : Workspace) : Store :=
  { store with workspaces := store.workspaces ++ [workspace] }

/-! ## Files around a save -/

/-- Nothing that was there has changed, but for a file at the place. -/
structure Files.KeepsBut (before after : Files) (place : Location) : Prop where
  grows : before.Grows after
  others : ∀ other node, other ≠ place → before.get? other = some node →
    after.get? other = some node

namespace Machine

theorem keepsBut_of_save (h : (store.save path : StoreM Unit).run machine = (.ok (), saved)) :
    saved.directory = machine.directory ∧ ∃ place contents executable,
      saved.files.inspect saved.directory path = .ok (place, .file contents executable) ∧
        machine.files.KeepsBut saved.files place := by
  rcases machine.run_save store path with ⟨error, hsave⟩ | ⟨text, files, _, hwrite, hsave⟩
  · rw [hsave] at h
    cases h
  · rw [hsave] at h
    cases h
    obtain ⟨place, executable, htakes, rfl, hinspect⟩ := Files.write_eq_ok hwrite
    refine ⟨machine.directory_withWay path, place, TextUnit.ofText text, executable, ?_, ?_⟩
    · rw [machine.directory_withWay path]
      exact hinspect
    · refine ⟨(machine.extends_withWay path).grows.trans (Files.grows_set_file htakes _ _), ?_⟩
      intro other node hother hnode
      rw [Files.get?_set _ _ _ htakes.ne_root, if_neg hother]
      exact machine.extends_withWay path other node hnode

/-- The store under a path is as it was.  Directories on the way to it may be new. -/
structure Spares (machine : Machine) (path : Path) (after : Machine) : Prop where
  way : machine.AddsWayTo path after.files
  directory : after.directory = machine.directory
  store : machine.HasPlainWay path →
    after.contains path = machine.contains path ∧ after.storeAt path = machine.storeAt path

theorem spares_withWay (machine : Machine) (path : Path) :
    machine.Spares path (machine.withWay path) :=
  ⟨machine.addsWayTo_withWay path, machine.directory_withWay path, fun hway => hway.storeAt⟩

theorem Spares.of_sameFiles {told : Machine} (hbefore : machine.SameFiles told)
    (h : told.Spares path after) : machine.Spares path after := by
  refine ⟨?_, h.directory.trans hbefore.directory, fun hway => ?_⟩
  · have hadds := h.way
    rwa [AddsWayTo, hbefore.files, hbefore.directory] at hadds
  · obtain ⟨hcontains, hstore⟩ := h.store (hbefore.hasPlainWay hway)
    exact ⟨hcontains.trans (hbefore.contains path), hstore.trans (hbefore.storeAt path)⟩

/-- Where the Desktopfile of the current directory is looked for. -/
def desktopfile (machine : Machine) : Path := machine.directoryPath.join desktopfileName

/-- A workspace as it is remembered first. -/
def newWorkspace (machine : Machine) (name description : String) : Workspace :=
  let now := machine.clock machine.readings
  ⟨name, description, machine.directoryPath, now, now, now, .empty⟩

/-- The name was free, and the store has one more record, which is that of the current
directory.  Nothing else that was there has changed; in particular the Desktopfile is
the same one, unless it is the file of the store. -/
structure Registers (machine : Machine) (session : Session) (name description : String)
    (after : Machine) : Prop where
  free : session.store.find? name = none
  stored : after.storeAt session.storeFile =
    .ok (session.store.withWorkspace (machine.newWorkspace name description))
  directory : after.directory = machine.directory
  kept : ∃ place contents executable,
    after.files.inspect after.directory session.storeFile =
        .ok (place, .file contents executable) ∧
      machine.files.KeepsBut after.files place ∧
      ∀ other node, other ≠ place →
        machine.files.inspect machine.directory machine.desktopfile = .ok (other, node) →
          after.files.inspect after.directory machine.desktopfile = .ok (other, node)

end Machine

/-- What `new` answers, and the machine that it leaves. -/
inductive EndsNew (machine : Machine) (name description : String) :
    Except Failure Unit → Machine → Prop
  | refused {failure : Failure} {after : Machine} (hearly : failure.precedesSaving = true)
      (hsame : machine.SameFiles after) : EndsNew machine name description (.error failure) after
  | notSaved {session : Session} {error : StoreError} {after : Machine}
      (hsession : machine.foundSession = .ok session)
      (hspares : machine.Spares session.storeFile after) :
      EndsNew machine name description (.error (.storeNotSaved session.storeFile error)) after
  | notWritten {session : Session} {fault : Fault} {after : Machine}
      (hsession : machine.foundSession = .ok session)
      (hregisters : machine.Registers session name description after)
      (habsent : after.contains machine.desktopfile = false)
      (hfault : after.files.writeText after.directory machine.desktopfile Desktopfile.template =
        .error fault)
      (hrefused : ∀ later, after.foundSession = .ok later → later.storeFile = session.storeFile →
        (((Command.new name description).run : CommandM Unit).run after).1 =
          .error (.workspaceExists name machine.directoryPath)) :
      EndsNew machine name description (.error (.desktopfileNotWritten machine.desktopfile fault))
        after
  | registered {session : Session} {after : Machine}
      (hsession : machine.foundSession = .ok session)
      (hregisters : machine.Registers session name description after)
      (hpresent : after.contains machine.desktopfile = true) :
      EndsNew machine name description (.ok ()) after

/-! ## The steps of the command -/

theorem run_currentDirectory (machine : Machine) :
    (Host.currentDirectory : CommandM _).run machine =
      (.ok (if machine.files.get? machine.directory = some .directory then
        .ok machine.directoryPath else .error .notFound), machine) := by
  refine (run_lift _ machine).trans ?_
  simp only [Host.currentDirectory]
  split <;> simp_all

namespace Session

variable {session : Session} {name description : String}

/-- How writing a Desktopfile to start from ends. -/
inductive EndsTemplate (directory : Path) (machine : Machine) :
    Except Failure Unit × Machine → Prop
  | found (hpresent : machine.contains (directory.join desktopfileName) = true) :
      EndsTemplate directory machine (.ok (), machine)
  | written {after : Machine} (hadds : machine.OnlyAdds after)
      (hpresent : after.contains (directory.join desktopfileName) = true) :
      EndsTemplate directory machine (.ok (), after)
  | notWritten {fault : Fault}
      (habsent : machine.contains (directory.join desktopfileName) = false)
      (hfault : machine.files.writeText machine.directory (directory.join desktopfileName)
        Desktopfile.template = .error fault) :
      EndsTemplate directory machine
        (.error (.desktopfileNotWritten (directory.join desktopfileName) fault), machine)

theorem run_writeTemplate_of_error {directory : Path} {fault : Fault}
    (habsent : machine.contains (directory.join desktopfileName) = false)
    (hfault : machine.files.writeText machine.directory (directory.join desktopfileName)
      Desktopfile.template = .error fault) :
    (writeTemplate directory : CommandM Unit).run machine =
      (.error (.desktopfileNotWritten (directory.join desktopfileName) fault), machine) := by
  rw [Machine.contains] at habsent
  rw [writeTemplate, Machine.run_contains, habsent, if_neg Bool.false_ne_true,
    Machine.run_writeText, hfault]
  rfl

theorem endsTemplate_writeTemplate (directory : Path) (machine : Machine) :
    EndsTemplate directory machine
      ((writeTemplate directory : CommandM Unit).run machine) := by
  cases hcontains : machine.files.contains machine.directory (directory.join desktopfileName) with
  | true =>
      rw [writeTemplate, Machine.run_contains, hcontains, if_pos rfl]
      exact .found hcontains
  | false =>
      cases hwrite : machine.files.writeText machine.directory (directory.join desktopfileName)
          Desktopfile.template with
      | error fault =>
          rw [run_writeTemplate_of_error hcontains hwrite]
          exact .notWritten hcontains hwrite
      | ok files =>
          have hadds := onlyAdds_writeTemplate directory machine
          have hrun : (writeTemplate directory : CommandM Unit).run machine =
              ((Notice.success "Created" ("starter " ++ desktopfileName.shown)).tell :
                CommandM Unit).run { machine with files := files } := by
            rw [writeTemplate, Machine.run_contains, hcontains, if_neg Bool.false_ne_true,
              Machine.run_writeText, hwrite]
          rw [hrun, run_tell] at hadds ⊢
          obtain ⟨place, executable, _, _, hinspect⟩ := Files.write_eq_ok hwrite
          exact .written hadds (Machine.contains_of_inspect hinspect)

theorem run_create_lost (h : machine.files.get? machine.directory ≠ some .directory) :
    (session.create name description : CommandM Unit).run machine =
      (.error (.noCurrentDirectory .notFound), machine) := by
  rw [create, Machine.run_bind_of_ok (run_currentDirectory machine), if_neg h]
  rfl

theorem run_create_taken (description : String)
    (h : machine.files.get? machine.directory = some .directory) {workspace : Workspace}
    (hfound : session.store.find? name = some workspace) :
    ∃ after, machine.SameFiles after ∧ (session.create name description : CommandM Unit).run
      machine = (.error (.workspaceExists name workspace.path), after) := by
  rw [create, Machine.run_bind_of_ok (run_currentDirectory machine), if_pos h]
  simp only [hfound]
  rw [Machine.run_bind_of_ok (run_tell _ machine)]
  refine ⟨_, ?_, rfl⟩
  exact ⟨rfl, rfl⟩

theorem run_create_free (h : machine.files.get? machine.directory = some .directory)
    (hfree : session.store.find? name = none) :
    ∃ noted, machine.SameFiles noted ∧ (session.create name description : CommandM Unit).run
      machine = (do
        session.save (.ok (machine.newWorkspace name description),
          session.store.withWorkspace (machine.newWorkspace name description))
        writeTemplate machine.directoryPath
        (Notice.success "Created" ("workspace '" ++ name ++ "'")).tell : CommandM Unit).run
          noted := by
  rw [create, Machine.run_bind_of_ok (run_currentDirectory machine), if_pos h]
  simp only [hfree]
  rw [Machine.run_bind_of_ok (run_tell _ machine), Machine.run_bind_of_ok (run_now _),
    Store.addWorkspace, hfree]
  refine ⟨_, ?_, rfl⟩
  exact ⟨rfl, rfl⟩

/-- Once the store is saved, the workspace is registered, whatever comes after that. -/
theorem registers_of_save {noted : Machine} (hnoted : machine.SameFiles noted)
    (hfree : session.store.find? name = none)
    (hsave : ((session.store.withWorkspace (machine.newWorkspace name description)).save
      session.storeFile : StoreM Unit).run noted = (.ok (), saved))
    (hadds : saved.OnlyAdds after) :
    machine.Registers session name description after := by
  obtain ⟨hdirectory, place, contents, executable, hinspect, hgrows, hothers⟩ :=
    Machine.keepsBut_of_save hsave
  have hstored := Machine.storeAt_of_save hsave
  have hsame : after.storeAt session.storeFile = saved.storeAt session.storeFile :=
    (hadds.storeAt (Machine.contains_of_inspect hinspect)).2
  have hthere : after.directory = machine.directory :=
    hadds.directory.trans (hdirectory.trans hnoted.directory)
  rw [hnoted.files] at hgrows hothers
  have hkept : machine.files.KeepsBut after.files place := by
    refine ⟨hgrows.trans hadds.files.grows, fun other node hother hnode => ?_⟩
    exact hadds.files other node (hothers other node hother hnode)
  refine ⟨hfree, hsame.trans hstored, hthere, place, contents, executable, ?_, hkept, ?_⟩
  · rw [hadds.directory]
    exact Files.inspect_of_extends hinspect hadds.files
  · intro other node hother hfile
    rw [hthere]
    have hnode := hkept.others other node hother (Files.get?_of_inspect hfile)
    exact Files.inspect_of_grows_occupied hfile hkept.grows hnode

end Session

/-- A workspace that is registered cannot be registered again. -/
theorem Machine.Registers.refused {session later : Session} {name description : String}
    (h : machine.Registers session name description after)
    (hdirectory : machine.files.get? machine.directory = some .directory)
    (hlater : after.foundSession = .ok later) (hfile : later.storeFile = session.storeFile) :
    (((Command.new name description).run : CommandM Unit).run after).1 =
      .error (.workspaceExists name machine.directoryPath) := by
  obtain ⟨place, _, _, _, hkept, _⟩ := h.kept
  have hthere : after.files.get? after.directory = some .directory := by
    rw [h.directory]
    exact hkept.grows.get?_directory hdirectory
  have hstore := (foundSession_eq_ok_iff.mp hlater).2.2
  rw [hfile, h.stored] at hstore
  have hfound : later.store.find? name = some (machine.newWorkspace name description) := by
    have hfree := h.free
    rw [Store.find?] at hfree
    rw [← Except.ok.inj hstore, Store.find?, Store.withWorkspace, List.find?_append, hfree]
    simp [newWorkspace]
  obtain ⟨_, _, hrun⟩ := Session.run_create_taken description hthere hfound
  rw [run_command, hlater]
  exact congrArg Prod.fst hrun

theorem endsNew_of_save {session : Session} {name description : String} {noted : Machine}
    (hsession : machine.foundSession = .ok session)
    (hdirectory : machine.files.get? machine.directory = some .directory)
    (hfree : session.store.find? name = none) (hnoted : machine.SameFiles noted)
    (hsave : ((session.store.withWorkspace (machine.newWorkspace name description)).save
      session.storeFile : StoreM Unit).run noted = (.ok (), saved)) (notice : Notice)
    {result : Except Failure Unit}
    (hrun : (do Session.writeTemplate machine.directoryPath; notice.tell : CommandM Unit).run
      saved = (result, after)) :
    EndsNew machine name description result after := by
  have htemplate := Session.endsTemplate_writeTemplate machine.directoryPath saved
  generalize hwrite : (Session.writeTemplate machine.directoryPath : CommandM Unit).run saved =
    written at htemplate
  cases htemplate with
  | found hpresent =>
      rw [Machine.run_bind_of_ok hwrite, run_tell] at hrun
      cases hrun
      exact .registered hsession
        (Session.registers_of_save hnoted hfree hsave ⟨.refl saved.files, rfl⟩) hpresent
  | written hadds hpresent =>
      rw [Machine.run_bind_of_ok hwrite, run_tell] at hrun
      cases hrun
      exact .registered hsession
        (Session.registers_of_save hnoted hfree hsave ⟨hadds.files, hadds.directory⟩) hpresent
  | notWritten habsent hfault =>
      rw [Machine.run_bind_of_error hwrite] at hrun
      cases hrun
      have hregisters := Session.registers_of_save hnoted hfree hsave (refl saved)
      exact .notWritten hsession hregisters habsent hfault fun later hlater hfile =>
        hregisters.refused hdirectory hlater hfile

/-- A run of `new` that fails has left the store as it was, unless what failed is writing the
Desktopfile to start from: then the workspace is registered all the same, and a second run
is refused.  A run that succeeds has registered the workspace. -/
theorem endsNew_run (machine : Machine) (name description : String) :
    EndsNew machine name description
      (((Command.new name description).run : CommandM Unit).run machine).1
      (((Command.new name description).run : CommandM Unit).run machine).2 := by
  rw [run_command]
  cases hsession : machine.foundSession with
  | error failure =>
      have hearly : failure.precedesSaving = true := by
        apply looks_start.early machine failure
        rw [machine.run_start, hsession]
      exact .refused hearly (refl machine)
  | ok session =>
      show EndsNew machine name description
        ((session.create name description : CommandM Unit).run machine).1
        ((session.create name description : CommandM Unit).run machine).2
      by_cases hdirectory : machine.files.get? machine.directory = some .directory
      · cases hfind : session.store.find? name with
        | some workspace =>
            obtain ⟨after, hsame, hrun⟩ := Session.run_create_taken description hdirectory hfind
            rw [hrun]
            exact .refused rfl hsame
        | none =>
            obtain ⟨noted, hnoted, hrun⟩ := Session.run_create_free hdirectory hfind
            rw [hrun]
            rcases session.run_save (machine.newWorkspace name description) _ noted with
              ⟨error, hsave⟩ | ⟨files, hstored, hsave⟩
            · rw [Machine.run_bind_of_error hsave]
              exact .notSaved hsession ((noted.spares_withWay _).of_sameFiles hnoted)
            · rw [Machine.run_bind_of_ok hsave]
              exact endsNew_of_save hsession hdirectory hfind hnoted hstored _ rfl
      · rw [Session.run_create_lost hdirectory]
        exact .refused rfl (refl machine)

namespace Machine

/-- The Desktopfile of the current directory is a link that leads nowhere. -/
def dangling : Machine :=
  { fresh with
    directory := [TextUnit.ofText "api"]
    files := ⟨[
      ([TextUnit.ofText "s"], .directory),
      (["s", "desktop"].map TextUnit.ofText, .directory),
      ([TextUnit.ofText "api"], .directory),
      (["api", "Desktopfile"].map TextUnit.ofText, .link (.ofText "nowhere/Desktopfile"))]⟩ }

def danglingSession : Session := ⟨Settings.defaults, .empty, freshPath⟩

def danglingStore : Store := ⟨1, .empty, [dangling.newWorkspace "api" ""]⟩

section

set_option maxRecDepth 10000

theorem contains_dangling : dangling.contains freshPath = false := by
  cbv

theorem foundSession_dangling : dangling.foundSession = .ok danglingSession := by
  rw [foundSession_eq_ok_iff]
  exact ⟨by cbv, by cbv, storeAt_of_absent contains_dangling⟩

theorem makeDirectories_dangling :
    dangling.files.makeDirectories dangling.directory (.ofText "/s/desktop") =
      (.ok (), dangling.files) := by
  cbv

theorem find_dangling : dangling.files.find .write dangling.directory freshPath =
    .ok (.vacant (["s", "desktop", "desktop.toml"].map TextUnit.ofText)) := by
  cbv

variable (contents : List TextUnit)

/-- The files with the store. -/
def danglingFiles : Files :=
  dangling.files.set (["s", "desktop", "desktop.toml"].map TextUnit.ofText) (.file contents false)

theorem contains_danglingFiles :
    (danglingFiles contents).contains dangling.directory dangling.desktopfile = false := by
  cbv

theorem find_danglingFiles :
    (danglingFiles contents).find .write dangling.directory dangling.desktopfile =
      .error .notFound := by
  cbv

end

theorem run_save_dangling {noted : Machine} (hnoted : dangling.SameFiles noted) :
    ∃ saved, (danglingStore.save freshPath : StoreM Unit).run noted = (.ok (), saved) ∧
      saved.contains dangling.desktopfile = false ∧
      saved.files.writeText saved.directory dangling.desktopfile Desktopfile.template =
        .error .notFound := by
  have hparent : freshPath.parent? = some (.ofText "/s/desktop") := by decide
  have hmade : noted.files.makeDirectories noted.directory (.ofText "/s/desktop") =
      (.ok (), noted.files) := by
    rw [hnoted.files, hnoted.directory]
    exact makeDirectories_dangling
  have htext : ∃ text, danglingStore.text? = some text := ⟨_, rfl⟩
  obtain ⟨text, htext⟩ := htext
  have hwrite : noted.files.writeText noted.directory freshPath text =
      .ok (danglingFiles (TextUnit.ofText text)) := by
    rw [hnoted.files, hnoted.directory]
    exact Files.writeText_of_vacant find_dangling text
  refine ⟨_, run_save_of_way hparent hmade htext hwrite, ?_, ?_⟩
  · rw [contains, hnoted.directory]
    exact contains_danglingFiles _
  · rw [hnoted.directory, Files.writeText, Files.write, find_danglingFiles]

end Machine

/-- The command fails, but the workspace is in the store that was absent before. -/
theorem new_registers_and_fails :
    Machine.dangling.contains Machine.freshPath = false ∧
      (((Command.new "api" "").run : CommandM Unit).run Machine.dangling).1 =
        .error (.desktopfileNotWritten (.ofText "/api/Desktopfile") .notFound) ∧
      (((Command.new "api" "").run : CommandM Unit).run Machine.dangling).2.storeAt
        Machine.freshPath = .ok Machine.danglingStore := by
  refine ⟨Machine.contains_dangling, ?_⟩
  obtain ⟨noted, hnoted, hrun⟩ := @Session.run_create_free Machine.dangling
    Machine.danglingSession "api" "" rfl rfl
  obtain ⟨saved, hstored, habsent, hfault⟩ := Machine.run_save_dangling hnoted
  have hsave := Machine.danglingSession.run_save_of_ok
    (Machine.dangling.newWorkspace "api" "") Machine.danglingStore noted
  rw [Machine.danglingSession] at hsave
  rw [hstored] at hsave
  have hcreate := hrun.trans (Machine.run_bind_of_ok hsave)
  rw [Machine.run_bind_of_error (Session.run_writeTemplate_of_error habsent hfault)] at hcreate
  rw [run_command, Machine.foundSession_dangling]
  dsimp only [Command.runIn]
  rw [hcreate]
  exact ⟨rfl, Machine.storeAt_of_save hstored⟩

end Workspaces
