import Workspaces.Proofs.CommandRuns
import Workspaces.Proofs.KeptStores

/-!
# Commands that save

What a command can do is said once here.  It looks at the machine, and saves the store
once if at all; what it saves keeps the store that it found.  After that it may add
files, and what can still fail has nothing to do with what it looked at.  So the failure
of a command tells whether it has come to saving.
-/

namespace Workspaces

/-! ## Failures after saving -/

theorem failsAs_tell (notice : Notice) : FailsAs false (notice.tell : CommandM Unit) :=
  .of_ok fun machine => ⟨(), congrArg Prod.fst (run_tell notice machine)⟩

theorem failsAs_writeTemplate (directory : Path) :
    FailsAs false (Session.writeTemplate directory : CommandM Unit) := by
  refine .bind (.of_ok fun _ => ⟨_, rfl⟩) fun found => ?_
  split
  · exact .of_ok fun _ => ⟨(), rfl⟩
  · refine .bind (.of_ok fun _ => ⟨_, rfl⟩) fun written => ?_
    split
    · intro machine failure hfailure
      cases hfailure
      rfl
    · exact failsAs_tell _

theorem failsAs_scriptDirectory : FailsAs false (scriptDirectory : CommandM Path) := by
  refine .bind (.of_ok fun _ => ⟨_, rfl⟩) fun directory => ?_
  split <;> exact .of_ok fun _ => ⟨_, rfl⟩

/-! ## Files that are added -/

/-- Files were added, and nothing else was changed. -/
structure Machine.OnlyAdds (before after : Machine) : Prop where
  files : before.files.Extends after.files
  directory : after.directory = before.directory

instance : IsPreorder Machine Machine.OnlyAdds where
  refl machine := ⟨.refl machine.files, rfl⟩
  trans := fun _ _ _ hfirst hsecond =>
    ⟨hfirst.files.trans hsecond.files, hsecond.directory.trans hfirst.directory⟩

theorem Machine.SameFiles.onlyAdds {before after : Machine} (h : before.SameFiles after) :
    before.OnlyAdds after :=
  ⟨h.files ▸ .refl _, h.directory⟩

theorem Files.extends_writeText_of_absent {files after : Files} {location : Location}
    {path : Path} {text : String} (habsent : files.contains location path = false)
    (h : files.writeText location path text = .ok after) : files.Extends after := by
  rw [writeText, write] at h
  split at h
  · cases h
  · rename_i place hfind
    cases h
    exact extends_set (leads_of_find hfind).get?_location _
  · rename_i place contents executable hfind
    have hfile : files.get? place = some (.file contents executable) :=
      (leads_of_find hfind).get?_location
    have hinspect := inspect_of_grows hfind (by decide) (Extends.refl files).grows hfile
      (by rintro target ⟨⟩)
    rw [contains, hinspect] at habsent
    cases habsent
  · cases h

theorem Machine.onlyAdds_createScript (directory : Path) (text : String) (tries : Nat)
    (machine : Machine) : machine.OnlyAdds (createScript directory text tries machine).2 := by
  fun_induction createScript directory text tries machine with
  | case1 => exact refl _
  | case2 tries machine path next node files hcreate =>
      exact ⟨Files.extends_create hcreate, rfl⟩
  | case3 tries machine path next node hcreate ih => exact ⟨ih.files, ih.directory⟩
  | case4 => exact ⟨.refl _, rfl⟩

theorem onlyAdds_tell (notice : Notice) :
    Within Machine.OnlyAdds (notice.tell : CommandM Unit).run :=
  (reads_tell notice).same.mono fun _ _ h => h.onlyAdds

theorem onlyAdds_log {ε : Type} (entry : LogEntry) :
    Within Machine.OnlyAdds (Host.log entry : ExceptT ε (StateM Machine) Unit).run :=
  (within_log entry).mono fun _ _ h => h.sameFiles.onlyAdds

theorem onlyAdds_writeTemplate (directory : Path) :
    Within Machine.OnlyAdds (Session.writeTemplate directory : CommandM Unit).run := by
  intro machine
  rw [Session.writeTemplate, Machine.run_contains]
  split
  · exact refl machine
  · rename_i habsent
    rw [Machine.run_writeText]
    split
    · exact refl machine
    · rename_i files hwrite
      refine IsTrans.trans _ _ _ ?_ (onlyAdds_tell _ { machine with files := files })
      exact ⟨Files.extends_writeText_of_absent (by simpa using habsent) hwrite, rfl⟩

theorem onlyAdds_launch (shell : String) (scripts : Path) (script : Script) (directory : Path) :
    Within Machine.OnlyAdds
      (launch shell scripts script directory : ExceptT LaunchError (StateM Machine) Unit).run := by
  have hwrite : Within Machine.OnlyAdds
      (writeScript scripts script : ExceptT LaunchError (StateM Machine) Path).run := by
    intro machine
    have hcreate : machine.OnlyAdds
        ((Host.createScript scripts script.text : StateM Machine _) machine).2 := by
      simp only [Host.createScript]
      apply machine.onlyAdds_createScript
    rw [run_writeScript]
    split <;> rename_i hmade <;> rw [hmade] at hcreate <;> exact hcreate
  refine .bind hwrite fun path => .bind (onlyAdds_log _) fun _ => .bind (onlyAdds_log _) fun _ => ?_
  refine .bind ?_ fun started => ?_
  · intro machine
    rw [run_handOver]
    split
    · exact refl machine
    · exact ⟨.refl _, rfl⟩
  · split <;> exact .of_same fun _ => rfl

/-! ## What a command does -/

/-- The run changes no file until it saves, if it saves at all, and fails in the way of a run that
has not saved yet.  What it saves keeps the store of the session.  Then it only adds files,
and fails in another way. -/
inductive SavesOnce (session : Session) : CommandM Unit → Prop
  | reads {action : CommandM Unit} (h : Reads action) : SavesOnce session action
  | looks {α : Type} {action : CommandM α} {next : α → CommandM Unit} (haction : Reads action)
      (hnext : ∀ value, SavesOnce session (next value)) : SavesOnce session (action >>= next)
  | saves {α : Type} {changed : Except StoreError α × Store} {rest : Unit → CommandM Unit}
      (hkept : session.store.IsKeptIn changed.2)
      (hrest : Within Machine.OnlyAdds (rest ()).run) (hlate : FailsAs false (rest ())) :
      SavesOnce session (session.save changed >>= rest)

namespace Session

variable (session : Session)

theorem savesOnce_create (name description : String) :
    SavesOnce session (session.create name description) := by
  refine .looks looks_currentDirectory.reads fun directory => ?_
  split
  · exact .reads (.throw rfl)
  · refine .looks (reads_tell _) fun _ => ?_
    split
    · exact .reads (.throw rfl)
    · refine .looks reads_now fun now => .saves (.addWorkspace ..) ?_ ?_
      · exact .bind (onlyAdds_writeTemplate _) fun _ => onlyAdds_tell _
      · exact (failsAs_writeTemplate _).bind fun _ => failsAs_tell _

theorem savesOnce_createTag (tag : String) : SavesOnce session (session.createTag tag) :=
  .saves (.addTag ..) (onlyAdds_tell _) (failsAs_tell _)

theorem savesOnce_tagWorkspace (name tag : String) :
    SavesOnce session (session.tagWorkspace name tag) :=
  .looks reads_now fun _ => .saves (.tagWorkspace ..) (onlyAdds_tell _) (failsAs_tell _)

theorem savesOnce_activate (activation : Activation) :
    SavesOnce session (session.activate activation) := by
  refine .looks reads_now fun now => .saves (.touch ..) ?_ ?_
  · have hscripts : Within Machine.OnlyAdds (scriptDirectory : CommandM Path).run :=
      .of_same fun machine => by
        rw [run_scriptDirectory]
    exact .bind (onlyAdds_tell _) fun _ => .bind (onlyAdds_log _) fun _ =>
      .bind hscripts fun _ => .adapt (onlyAdds_launch _ _ _ _) _
  · refine (failsAs_tell _).bind fun _ => FailsAs.bind (.of_ok fun _ => ⟨(), rfl⟩) fun _ => ?_
    exact failsAs_scriptDirectory.bind fun _ => .adapt fun _ => rfl

theorem savesOnce_go (name : String) (variant : Option String) :
    SavesOnce session (session.go name variant) :=
  .looks (session.reads_prepare name variant) fun activation =>
    session.savesOnce_activate activation

end Session

/-- The commands that save nothing. -/
def Command.isReading : Command → Bool
  | list => true
  | script _ _ => true
  | check _ => true
  | tags .list => true
  | tags (.display _ _) => true
  | new _ _ => false
  | go _ _ => false
  | tags (.new _) => false
  | tags (.add _ _) => false

theorem reads_runIn (session : Session) (command : Command) (h : command.isReading = true) :
    Reads (command.runIn session : CommandM Unit) := by
  cases command with
  | new name description => cases h
  | list => exact session.reads_listWorkspaces
  | go workspace variant => cases h
  | script workspace variant => exact session.reads_printScript workspace variant
  | check workspace => exact session.reads_check workspace
  | tags command =>
      cases command with
      | new name => cases h
      | list => exact session.reads_listTags
      | add workspace tag => cases h
      | display tag workspace => exact session.reads_showTarget tag workspace

/-- Every command saves once at most. -/
theorem savesOnce_runIn (session : Session) (command : Command) :
    SavesOnce session (command.runIn session) := by
  by_cases hreading : command.isReading = true
  · exact .reads (reads_runIn session command hreading)
  · cases command with
    | new name description => exact session.savesOnce_create name description
    | go workspace variant => exact session.savesOnce_go workspace variant
    | tags command =>
        cases command with
        | new name => exact session.savesOnce_createTag name
        | add workspace tag => exact session.savesOnce_tagWorkspace workspace tag
        | list => exact absurd rfl hreading
        | display tag workspace => exact absurd rfl hreading
    | list => exact absurd rfl hreading
    | script workspace variant => exact absurd rfl hreading
    | check workspace => exact absurd rfl hreading

/-! ## Where a command fails -/

/-- How a command that fails ends in a session.  It has changed no file and tells that it failed
before it saved; or it has tried to save a store that keeps the one of the session, and failed
at that, or after it. -/
inductive FailsIn (session : Session) (before : Machine) : Failure → Machine → Prop
  | early {failure : Failure} {after : Machine} (hearly : failure.precedesSaving = true)
      (hsame : before.SameFiles after) : FailsIn session before failure after
  | saving {store : Store} {tried after : Machine} {error : StoreError}
      (hkept : session.store.IsKeptIn store) (htried : before.SameFiles tried)
      (hsave : (store.save session.storeFile : StoreM Unit).run tried = (.error error, after)) :
      FailsIn session before (.storeNotSaved session.storeFile error) after
  | late {failure : Failure} {store : Store} {tried saved after : Machine}
      (hlate : failure.precedesSaving = false) (hkept : session.store.IsKeptIn store)
      (htried : before.SameFiles tried)
      (hsave : (store.save session.storeFile : StoreM Unit).run tried = (.ok (), saved))
      (hadds : saved.OnlyAdds after) : FailsIn session before failure after

section

variable {session : Session} {machine earlier after : Machine} {failure : Failure}

theorem FailsIn.of_sameFiles (hsame : earlier.SameFiles machine)
    (h : FailsIn session machine failure after) : FailsIn session earlier failure after := by
  cases h with
  | early hearly hafter => exact .early hearly (IsTrans.trans _ _ _ hsame hafter)
  | saving hkept htried hsave => exact .saving hkept (IsTrans.trans _ _ _ hsame htried) hsave
  | late hlate hkept htried hsave hadds =>
      exact .late hlate hkept (IsTrans.trans _ _ _ hsame htried) hsave hadds

theorem Reads.failsIn {α : Type} {action : CommandM α} (h : Reads action)
    (hrun : action.run machine = (.error failure, after)) :
    FailsIn session machine failure after := by
  have hsame := h.same machine
  rw [show action.run machine = _ from hrun] at hsame
  exact .early (h.early machine failure (congrArg Prod.fst hrun)) hsame

theorem Session.failsIn_save {α : Type} {changed : Except StoreError α × Store}
    (hkept : session.store.IsKeptIn changed.2)
    (hrun : (session.save changed : CommandM Unit).run machine = (.error failure, after)) :
    FailsIn session machine failure after := by
  obtain ⟨error | answer, store⟩ := changed
  · rw [session.run_save_of_error] at hrun
    obtain ⟨hfailure, rfl⟩ := Prod.mk.inj hrun
    cases hfailure
    exact .early rfl (refl machine)
  · rw [session.run_save_of_ok] at hrun
    cases hsave : (store.save session.storeFile : StoreM Unit).run machine with
    | mk result saved =>
        rw [hsave] at hrun
        cases result with
        | error error =>
            cases hrun
            exact .saving hkept (refl machine) hsave
        | ok _ => cases hrun

/-- A run that saves once and fails does so before it saves, at that, or after it. -/
theorem SavesOnce.failsIn {action : CommandM Unit} (h : SavesOnce session action)
    (hrun : action.run machine = (.error failure, after)) :
    FailsIn session machine failure after := by
  induction h generalizing machine with
  | reads h => exact h.failsIn hrun
  | @looks _ action next haction _ ih =>
      have hsame := haction.same machine
      cases haction' : action.run machine with
      | mk result middle =>
          rw [haction'] at hsame
          cases result with
          | error error =>
              rw [Machine.run_bind_of_error haction'] at hrun
              cases hrun
              exact haction.failsIn haction'
          | ok value =>
              rw [Machine.run_bind_of_ok haction'] at hrun
              exact (ih value hrun).of_sameFiles hsame
  | @saves _ changed rest hkept hrest hlate =>
      cases hsave : (session.save changed : CommandM Unit).run machine with
      | mk result saved =>
          cases result with
          | error error =>
              rw [Machine.run_bind_of_error hsave] at hrun
              cases hrun
              exact session.failsIn_save hkept hsave
          | ok value =>
              rw [Machine.run_bind_of_ok hsave] at hrun
              have hadds := hrest saved
              rw [show (rest ()).run saved = _ from hrun] at hadds
              exact .late (hlate saved failure (congrArg Prod.fst hrun)) hkept (refl machine)
                (session.save_eq_ok hsave) hadds

/-- Whatever command fails, without a session or in one: if its failure is one of those that
precede saving, no file was changed, and any other failure comes from a run that tried to save. -/
theorem run_fails (command : Command)
    (hrun : (command.run : CommandM Unit).run machine = (.error failure, after)) :
    (machine.foundSession = .error failure ∧ failure.precedesSaving = true ∧ after = machine) ∨
      ∃ session, machine.foundSession = .ok session ∧ FailsIn session machine failure after := by
  rw [run_command] at hrun
  cases hsession : machine.foundSession with
  | error failed =>
      rw [hsession] at hrun
      cases hrun
      refine .inl ⟨rfl, ?_, rfl⟩
      apply looks_start.early machine failure
      rw [machine.run_start, hsession]
  | ok session =>
      rw [hsession] at hrun
      exact .inr ⟨session, rfl, (savesOnce_runIn session command).failsIn hrun⟩

/-- A failure that precedes saving comes from a run that changed no file. -/
theorem sameFiles_of_precedesSaving (command : Command)
    (hrun : (command.run : CommandM Unit).run machine = (.error failure, after))
    (hearly : failure.precedesSaving = true) : machine.SameFiles after := by
  rcases run_fails command hrun with ⟨_, _, rfl⟩ | ⟨_, _, hfails⟩
  · exact refl _
  · cases hfails with
    | early _ hsame => exact hsame
    | saving _ _ _ => cases hearly
    | late hlate _ _ _ _ =>
        rw [hlate] at hearly
        cases hearly

end

end Workspaces
