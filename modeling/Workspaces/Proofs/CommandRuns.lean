import Mathlib.Order.Defs.Unbundled
import Workspaces.Command.Run
import Workspaces.Proofs.SavedStore

/-!
# Runs of commands

What a run may do to a machine is said by a relation between the machine before and
the machine after.  If the relation is reflexive and transitive, a run stays within it
as soon as each of its steps does.  A failure tells whether the run has come to saving.
Finding the settings and the store changes nothing at all, preparing a variant only
adds to the log, and listing and checking only print.  So a command runs in the session
that is found on the machine, and activates what is prepared on it; saving alone makes
directories and writes.
-/

namespace Workspaces

/-- A command, or a part of one, on a machine. -/
abbrev CommandM := ExceptT Failure (StateM Machine)

/-- Wherever it begins, the run ends on a machine that `R` relates to the first. -/
def Within {α : Type} (R : Machine → Machine → Prop) (action : StateM Machine α) : Prop :=
  ∀ machine, R machine (action machine).2

namespace Within

variable {ε δ α β : Type} {R Q : Machine → Machine → Prop}

theorem mono {action : StateM Machine α} (h : Within R action)
    (hR : ∀ before after, R before after → Q before after) : Within Q action :=
  fun machine => hR _ _ (h machine)

variable [IsPreorder Machine R]

theorem of_same {action : StateM Machine α} (h : ∀ machine, (action machine).2 = machine) :
    Within R action := by
  intro machine
  rw [h]
  exact refl machine

theorem state_bind {action : StateM Machine α} {next : α → StateM Machine β}
    (haction : Within R action) (hnext : ∀ value, Within R (next value)) :
    Within R (action >>= next) :=
  fun machine => IsTrans.trans _ _ _ (haction machine) (hnext _ _)

theorem bind {action : ExceptT ε (StateM Machine) α} {next : α → ExceptT ε (StateM Machine) β}
    (haction : Within R action.run) (hnext : ∀ value, Within R (next value).run) :
    Within R (action >>= next).run := by
  change Within R (action.run >>= ExceptT.bindCont next : StateM Machine _)
  apply state_bind haction
  intro result
  cases result with
  | ok value => exact hnext value
  | error error => exact of_same fun _ => rfl

theorem adapt {action : ExceptT ε (StateM Machine) α} (h : Within R action.run) (f : ε → δ) :
    Within R (ExceptT.adapt f action).run := by
  change Within R (action.run >>= fun result => pure (result.mapError f) : StateM Machine _)
  apply state_bind h
  intro result
  exact of_same fun _ => rfl

theorem forM {act : α → ExceptT ε (StateM Machine) Unit} (list : List α)
    (h : ∀ value, Within R (act value).run) : Within R (list.forM act).run := by
  induction list with
  | nil => exact of_same fun _ => rfl
  | cons value list ih => exact (h value).bind fun _ => ih

end Within

/-- What a host does is done in a run that may fail. -/
theorem run_lift {ε α : Type} (action : StateM Machine α) (machine : Machine) :
    (ExceptT.lift action : ExceptT ε (StateM Machine) α).run machine =
      (.ok (action machine).1, (action machine).2) := rfl

theorem run_adapt {ε δ α : Type} (f : ε → δ) (action : ExceptT ε (StateM Machine) α)
    (machine : Machine) :
    (ExceptT.adapt f action).run machine =
      ((action.run machine).1.mapError f, (action.run machine).2) := rfl

/-! ## Failures before and after saving -/

/-- The failures that a command meets before it saves the store.  It saves once it has found
its settings, the store and what it is asked for, and has prepared what it is to start. -/
def Failure.precedesSaving : Failure → Bool
  | noHome => true
  | settingsUnreadable _ _ => true
  | settingsMalformed _ => true
  | storePathUnset _ _ => true
  | storeNotOpened _ _ => true
  | store _ => true
  | missingWorkspace _ => true
  | workspaceExists _ _ => true
  | noCurrentDirectory _ => true
  | activation _ => true
  | notOneTarget => true
  | storeNotSaved _ _ => false
  | desktopfileNotWritten _ _ => false
  | launch _ => false

/-- If the run fails, it fails before it saves, or it fails at saving or later. -/
def FailsAs {α : Type} (early : Bool) (action : CommandM α) : Prop :=
  ∀ machine failure, (action.run machine).1 = .error failure → failure.precedesSaving = early

section

variable {α β : Type} {early : Bool} {action : CommandM α} {next : α → CommandM β}

theorem FailsAs.bind (haction : FailsAs early action)
    (hnext : ∀ value, FailsAs early (next value)) : FailsAs early (action >>= next) := by
  intro machine failure hfailure
  cases hrun : action.run machine with
  | mk result middle =>
      cases result with
      | error error =>
          rw [Machine.run_bind_of_error hrun] at hfailure
          cases hfailure
          have hfirst := haction machine failure
          rw [hrun] at hfirst
          exact hfirst rfl
      | ok value =>
          rw [Machine.run_bind_of_ok hrun] at hfailure
          exact hnext value middle failure hfailure

theorem FailsAs.of_ok (h : ∀ machine, ∃ value, (action.run machine).1 = .ok value) :
    FailsAs early action := by
  intro machine failure hfailure
  obtain ⟨value, hvalue⟩ := h machine
  rw [hvalue] at hfailure
  cases hfailure

theorem FailsAs.throw {failure : Failure} (h : failure.precedesSaving = early) :
    FailsAs early (throw failure : CommandM α) := by
  intro machine other hother
  cases hother
  exact h

theorem FailsAs.adapt {ε : Type} {action : ExceptT ε (StateM Machine) α} {f : ε → Failure}
    (h : ∀ error, (f error).precedesSaving = early) :
    FailsAs early (ExceptT.adapt f action) := by
  intro machine failure hfailure
  change ((action.run machine).1.mapError f) = .error failure at hfailure
  cases hresult : (action.run machine).1 with
  | ok value =>
      rw [hresult] at hfailure
      cases hfailure
  | error error =>
      rw [hresult] at hfailure
      cases hfailure
      exact h error

end

/-! ## Finding the settings and the store -/

/-- The run changes nothing, and if it fails, it has not come to saving. -/
structure Looks {α : Type} (action : CommandM α) : Prop where
  same : Within Eq action.run
  early : FailsAs true action

namespace Looks

variable {δ α β : Type} {action : CommandM α} {next : α → CommandM β}

theorem of_ok (h : ∀ machine, ∃ value, action.run machine = (.ok value, machine)) :
    Looks action where
  same := fun machine => by
    obtain ⟨value, hvalue⟩ := h machine
    rw [hvalue]
  early := .of_ok fun machine => by
    obtain ⟨value, hvalue⟩ := h machine
    exact ⟨value, congrArg Prod.fst hvalue⟩

theorem throw {failure : Failure} (h : failure.precedesSaving = true) :
    Looks (throw failure : CommandM α) :=
  ⟨.of_same fun _ => rfl, .throw h⟩

theorem bind (haction : Looks action) (hnext : ∀ value, Looks (next value)) :
    Looks (action >>= next) :=
  ⟨haction.same.bind fun value => (hnext value).same,
    haction.early.bind fun value => (hnext value).early⟩

/-- The same for a run that may fail in a second way. -/
theorem bind_run {action : ExceptT δ CommandM α} {next : α → ExceptT δ CommandM β}
    (haction : Looks action.run) (hnext : ∀ value, Looks (next value).run) :
    Looks (action >>= next).run := by
  apply haction.bind
  intro result
  cases result with
  | ok value => exact hnext value
  | error error => exact .of_ok fun _ => ⟨_, rfl⟩

theorem mapM {act : α → ExceptT δ CommandM β} (list : List α)
    (h : ∀ value, Looks (act value).run) : Looks (list.mapM act).run := by
  induction list with
  | nil => exact .of_ok fun _ => ⟨_, rfl⟩
  | cons value list ih =>
      rw [List.mapM_cons]
      apply bind_run (h value)
      intro first
      apply bind_run ih
      intro others
      exact .of_ok fun _ => ⟨_, rfl⟩

theorem within {R : Machine → Machine → Prop} [IsPreorder Machine R] (h : Looks action) :
    Within R action.run :=
  .of_same fun machine => (h.same machine).symm

/-- A run that changes nothing answers on the machine as it is. -/
theorem run_eq (h : Looks action) (machine : Machine) :
    action.run machine = ((action.run machine).1, machine) :=
  Prod.ext rfl (h.same machine).symm

end Looks

theorem looks_userDirectory (key inHome : String) :
    Looks (userDirectory key inHome : CommandM Path) := by
  have hhome : Looks (userDirectory.inHomeDirectory inHome : CommandM Path) := by
    refine .bind (.bind (.of_ok fun _ => ⟨_, rfl⟩) fun home => ?_) fun home => ?_
    · split <;> exact .of_ok fun _ => ⟨_, rfl⟩
    · split
      · exact .throw rfl
      · exact .of_ok fun _ => ⟨_, rfl⟩
  refine .bind (.of_ok fun _ => ⟨_, rfl⟩) fun directory => ?_
  split
  · split
    · exact hhome
    · exact .of_ok fun _ => ⟨_, rfl⟩
  · exact hhome

theorem looks_loadDefault : Looks (Settings.loadDefault : CommandM Settings) := by
  have hfile : Looks (settingsFile : CommandM Path) :=
    .bind (.bind (looks_userDirectory _ _) fun _ => .of_ok fun _ => ⟨_, rfl⟩)
      fun _ => .of_ok fun _ => ⟨_, rfl⟩
  refine .bind hfile fun path => .bind (.of_ok fun _ => ⟨_, rfl⟩) fun found => ?_
  split
  · refine .bind (.of_ok fun _ => ⟨_, rfl⟩) fun text => ?_
    split
    · exact .throw rfl
    · split
      · exact .throw rfl
      · exact .of_ok fun _ => ⟨_, rfl⟩
  · exact .of_ok fun _ => ⟨_, rfl⟩

theorem looks_expandPath (text : String) :
    Looks (expandPath text : ExceptT String CommandM String).run := by
  refine .bind_run (.mapM _ fun fragment => ?_) fun fragments => ?_
  · cases fragment with
    | literal text => exact .of_ok fun _ => ⟨_, rfl⟩
    | reference name fallback =>
        refine .bind_run (.of_ok fun _ => ⟨_, rfl⟩) fun value => ?_
        split <;> exact .of_ok fun _ => ⟨_, rfl⟩
  · split
    · refine .bind_run (.bind_run (.of_ok fun _ => ⟨_, rfl⟩) fun home => ?_)
        fun _ => .of_ok fun _ => ⟨_, rfl⟩
      split <;> exact .of_ok fun _ => ⟨_, rfl⟩
    · exact .of_ok fun _ => ⟨_, rfl⟩

theorem looks_storeFile (settings : Settings) :
    Looks (settings.storeFile : CommandM Path) := by
  rw [Settings.storeFile]
  split
  · exact .bind (.bind (looks_userDirectory _ _) fun _ => .of_ok fun _ => ⟨_, rfl⟩)
      fun _ => .of_ok fun _ => ⟨_, rfl⟩
  · refine .bind (looks_expandPath _) fun result => ?_
    split
    · exact .throw rfl
    · exact .of_ok fun _ => ⟨_, rfl⟩

theorem looks_start : Looks (Session.start : CommandM Session) := by
  have hload (path : Path) : Within Eq (Store.load path : StoreM Store).run :=
    .of_same fun machine => by rw [Machine.run_load]
  refine .bind looks_loadDefault fun settings => .bind (looks_storeFile settings) fun path => ?_
  exact .bind ⟨.adapt (hload path) _, .adapt fun _ => rfl⟩ fun _ => .of_ok fun _ => ⟨_, rfl⟩

namespace Machine

/-- The settings that are found on a machine. -/
def foundSettings (machine : Machine) : Except Failure Settings :=
  ((Settings.loadDefault : CommandM Settings).run machine).1

/-- Where settings say that the store is kept. -/
def storeFileOf (machine : Machine) (settings : Settings) : Except Failure Path :=
  ((settings.storeFile : CommandM Path).run machine).1

/-- The session that starts on a machine. -/
def foundSession (machine : Machine) : Except Failure Session :=
  match machine.foundSettings with
  | .error failure => .error failure
  | .ok settings =>
    match machine.storeFileOf settings with
    | .error failure => .error failure
    | .ok path =>
      match machine.storeAt path with
      | .error error => .error (.storeNotOpened path error)
      | .ok store => .ok ⟨settings, store, path⟩

/-- A session starts on the machine as it is, and leaves it so. -/
theorem run_start (machine : Machine) :
    (Session.start : CommandM Session).run machine = (machine.foundSession, machine) := by
  have hsettings : (Settings.loadDefault : CommandM Settings).run machine =
      (machine.foundSettings, machine) := looks_loadDefault.run_eq machine
  rw [foundSession]
  split
  · rename_i failure hfailure
    rw [hfailure] at hsettings
    exact run_bind_of_error hsettings
  · rename_i settings hfound
    rw [hfound] at hsettings
    have hfile : (settings.storeFile : CommandM Path).run machine =
        (machine.storeFileOf settings, machine) := (looks_storeFile settings).run_eq machine
    refine (run_bind_of_ok hsettings).trans ?_
    split
    · rename_i failure hfailure
      rw [hfailure] at hfile
      exact run_bind_of_error hfile
    · rename_i path hpath
      rw [hpath] at hfile
      have hstore := run_adapt (Failure.storeNotOpened path) (Store.load path) machine
      rw [run_load] at hstore
      refine (run_bind_of_ok hfile).trans ?_
      split
      · rename_i error herror
        rw [herror] at hstore
        exact run_bind_of_error hstore
      · rename_i store hfound
        rw [hfound] at hstore
        exact run_bind_of_ok hstore

theorem foundSession_eq_ok_iff {machine : Machine} {session : Session} :
    machine.foundSession = .ok session ↔
      machine.foundSettings = .ok session.settings ∧
        machine.storeFileOf session.settings = .ok session.storeFile ∧
          machine.storeAt session.storeFile = .ok session.store := by
  obtain ⟨settings, store, path⟩ := session
  rw [foundSession]
  constructor
  · intro h
    split at h
    · cases h
    · rename_i hsettings
      split at h
      · cases h
      · rename_i hpath
        split at h
        · cases h
        · rename_i hstore
          cases h
          exact ⟨hsettings, hpath, hstore⟩
  · rintro ⟨hsettings, hpath, hstore⟩
    rw [hsettings]
    dsimp only
    rw [hpath]
    dsimp only
    rw [hstore]

end Machine

/-! ## Preparing and listing -/

def Event.printed? : Event → Option (Channel × String)
  | printed channel text => some (channel, text)
  | _ => none

namespace Machine

/-- What was printed, in its order. -/
def printed (machine : Machine) : List (Channel × String) :=
  machine.events.reverse.filterMap Event.printed?

/-- Whether labels are coloured on a channel. -/
def colors (machine : Machine) (channel : Channel) : Bool :=
  machine.isTerminal channel && (machine.env.get? "NO_COLOR").isNone

/-- What is printed of a notice, and where. -/
def shown (machine : Machine) (notice : Notice) : Channel × String :=
  (notice.kind.channel, notice.textIn (machine.colors notice.kind.channel))

/-- Nothing was done since but entered in the log. -/
def LogsTo (before after : Machine) : Prop :=
  ∃ entries : List LogEntry,
    after = { before with events := entries.map .logged ++ before.events }

structure SameFiles (before after : Machine) : Prop where
  files : after.files = before.files
  directory : after.directory = before.directory

instance : IsPreorder Machine LogsTo where
  refl _ := ⟨[], rfl⟩
  trans := by
    rintro first second third ⟨entries, rfl⟩ ⟨others, rfl⟩
    exact ⟨others ++ entries, by rw [List.map_append, List.append_assoc]⟩

instance : IsPreorder Machine SameFiles where
  refl _ := ⟨rfl, rfl⟩
  trans := fun _ _ _ hfirst hsecond =>
    ⟨hsecond.files.trans hfirst.files, hsecond.directory.trans hfirst.directory⟩

variable {before after : Machine}

theorem SameFiles.storeAt (h : before.SameFiles after) (path : Path) :
    after.storeAt path = before.storeAt path := by
  rw [Machine.storeAt, Machine.storeAt, h.files, h.directory]

theorem LogsTo.sameFiles (h : before.LogsTo after) : before.SameFiles after := by
  obtain ⟨entries, rfl⟩ := h
  exact ⟨rfl, rfl⟩

theorem LogsTo.printed (h : before.LogsTo after) : after.printed = before.printed := by
  obtain ⟨entries, rfl⟩ := h
  have hentries : (entries.map Event.logged).reverse.filterMap Event.printed? = [] := by
    rw [List.filterMap_eq_nil_iff]
    intro event hevent
    obtain ⟨entry, _, rfl⟩ := List.mem_map.mp (List.mem_reverse.mp hevent)
    rfl
  simp only [Machine.printed, List.reverse_append, List.filterMap_append, hentries,
    List.append_nil]

theorem LogsTo.startPlace (h : before.LogsTo after) : after.startPlace = before.startPlace := by
  obtain ⟨entries, rfl⟩ := h
  rfl

/-- Notices are shown on a terminal or not, whatever is in the log. -/
theorem LogsTo.shown (h : before.LogsTo after) : after.shown = before.shown := by
  obtain ⟨entries, rfl⟩ := h
  rfl

theorem printed_record (machine : Machine) (channel : Channel) (text : String) :
    (machine.record (.printed channel text)).printed = machine.printed ++ [(channel, text)] := by
  simp [Machine.printed, record, Event.printed?]

end Machine

/-- The run changes no file, and if it fails, it has not come to saving. -/
structure Reads {α : Type} (action : CommandM α) : Prop where
  same : Within Machine.SameFiles action.run
  early : FailsAs true action

theorem Looks.reads {α : Type} {action : CommandM α} (h : Looks action) : Reads action :=
  ⟨h.within, h.early⟩

namespace Reads

variable {α β : Type} {action : CommandM α} {next : α → CommandM β}

theorem of_ok (h : ∀ machine, ∃ value after, action.run machine = (.ok value, after) ∧
    after.files = machine.files ∧ after.directory = machine.directory) : Reads action where
  same := fun machine => by
    obtain ⟨value, after, hrun, hfiles, hdirectory⟩ := h machine
    rw [show action.run machine = _ from hrun]
    exact ⟨hfiles, hdirectory⟩
  early := .of_ok fun machine => by
    obtain ⟨value, after, hrun, _⟩ := h machine
    exact ⟨value, congrArg Prod.fst hrun⟩

theorem throw {failure : Failure} (h : failure.precedesSaving = true) :
    Reads (throw failure : CommandM α) :=
  (Looks.throw h).reads

theorem bind (haction : Reads action) (hnext : ∀ value, Reads (next value)) :
    Reads (action >>= next) :=
  ⟨haction.same.bind fun value => (hnext value).same,
    haction.early.bind fun value => (hnext value).early⟩

theorem forM {act : α → CommandM Unit} (list : List α) (h : ∀ value, Reads (act value)) :
    Reads (list.forM act) := by
  induction list with
  | nil => exact .of_ok fun machine => ⟨(), machine, rfl, rfl, rfl⟩
  | cons value list ih => exact (h value).bind fun _ => ih

end Reads

theorem within_log {ε : Type} (entry : LogEntry) :
    Within Machine.LogsTo (Host.log entry : ExceptT ε (StateM Machine) Unit).run :=
  fun _ => ⟨[entry], rfl⟩

theorem run_log {ε : Type} (entry : LogEntry) (machine : Machine) :
    (Host.log entry : ExceptT ε (StateM Machine) Unit).run machine =
      (.ok (), machine.record (.logged entry)) := rfl

/-- Entries are made in the log one after the other. -/
theorem run_forM_log {α ε : Type} (entry : α → LogEntry) (list : List α) (machine : Machine) :
    ∃ logged, (list.forM fun value => Host.log (entry value) :
      ExceptT ε (StateM Machine) Unit).run machine = (.ok (), logged) ∧ machine.LogsTo logged := by
  induction list generalizing machine with
  | nil => exact ⟨machine, rfl, refl machine⟩
  | cons value list ih =>
      have hfirst := run_log (ε := ε) (entry value) machine
      obtain ⟨logged, hrun, hlogged⟩ := ih (machine.record (.logged (entry value)))
      refine ⟨logged, (Machine.run_bind_of_ok hfirst).trans hrun, ?_⟩
      exact IsTrans.trans _ _ _ ⟨[entry value], rfl⟩ hlogged

theorem run_supportsColor (channel : Channel) (machine : Machine) :
    (supportsColor channel : CommandM Bool).run machine =
      (.ok (machine.colors channel), machine) := by
  have hterminal : (Host.isTerminal channel : CommandM Bool).run machine =
      (.ok (machine.isTerminal channel), machine) := rfl
  rw [supportsColor, Machine.run_bind_of_ok hterminal, Machine.colors]
  cases machine.isTerminal channel <;> rfl

theorem run_tell (notice : Notice) (machine : Machine) :
    (notice.tell : CommandM Unit).run machine =
      (.ok (), machine.record (.printed notice.kind.channel (machine.shown notice).2)) := by
  rw [Notice.tell, Machine.run_bind_of_ok (run_supportsColor _ machine)]
  rfl

theorem run_now (machine : Machine) :
    (Host.now : CommandM Instant).run machine =
      (.ok (machine.clock machine.readings), { machine with readings := machine.readings + 1 }) :=
  rfl

theorem run_scriptDirectory (machine : Machine) :
    (scriptDirectory : CommandM Path).run machine =
      (.ok (((machine.env.get? "TMPDIR").map Path.ofText).getD (.ofText "/tmp")), machine) := by
  have hlookup : (Host.lookup "TMPDIR" : CommandM _).run machine =
      (.ok (machine.env.get? "TMPDIR"), machine) := rfl
  rw [scriptDirectory, Machine.run_bind_of_ok hlookup]
  cases machine.env.get? "TMPDIR" <;> rfl

theorem run_handOver {ε : Type} (invocation : Invocation) (machine : Machine) :
    (Host.handOver invocation : ExceptT ε (StateM Machine) _).run machine =
      match machine.startPlace invocation with
      | .error fault => (.ok (.error fault), machine)
      | .ok place => (.ok (.ok ()), machine.record (.handedOver invocation place)) := by
  refine (run_lift _ machine).trans ?_
  simp only [Host.handOver]
  cases machine.startPlace invocation <;> rfl

theorem run_writeScript (scripts : Path) (script : Script) (machine : Machine) :
    (writeScript scripts script : ExceptT LaunchError (StateM Machine) Path).run machine =
      match (Host.createScript scripts script.text : StateM Machine _) machine with
      | (.error fault, written) => (.error (.ofScriptFault scripts fault), written)
      | (.ok path, written) => (.ok path, written) := by
  have hmade := run_lift (ε := LaunchError) (Host.createScript scripts script.text) machine
  cases hcreate : (Host.createScript scripts script.text : StateM Machine _) machine with
  | mk made written =>
      rw [hcreate] at hmade
      refine (Machine.run_bind_of_ok hmade).trans ?_
      cases made <;> rfl

theorem reads_tell (notice : Notice) : Reads (notice.tell : CommandM Unit) :=
  .of_ok fun machine => ⟨(), _, run_tell notice machine, rfl, rfl⟩

theorem reads_now : Reads (Host.now : CommandM Instant) :=
  .of_ok fun machine => ⟨_, _, run_now machine, rfl, rfl⟩

theorem reads_print (channel : Channel) (text : String) :
    Reads (Host.print channel text : CommandM Unit) :=
  .of_ok fun machine => ⟨(), machine.record (.printed channel text), rfl, rfl, rfl⟩

theorem looks_currentDirectory : Looks (Host.currentDirectory : CommandM _) := by
  have hsame (machine : Machine) :
      ((Host.currentDirectory : StateM Machine _) machine).2 = machine := by
    simp only [Host.currentDirectory]
    split <;> rfl
  exact .of_ok fun machine => ⟨_, (run_lift _ machine).trans (by rw [hsame])⟩

theorem within_loadEnvironment (platform : Platform) (directory : Path) :
    Within Machine.LogsTo (loadEnvironment platform directory :
      ExceptT ActivationError (StateM Machine) (Option (Path × Environment))).run := by
  have hkind (path : Path) : Within Machine.LogsTo
      (Host.isFile path : ExceptT ActivationError (StateM Machine) _).run := by
    apply Within.of_same
    intro machine
    show ((Host.isFile path : StateM Machine _) machine).2 = machine
    simp only [Host.isFile]
    split <;> rfl
  refine .bind (hkind _) fun kind => ?_
  split
  · exact .of_same fun _ => rfl
  · exact .of_same fun _ => rfl
  · exact .of_same fun _ => rfl
  · refine .bind (.of_same fun _ => rfl) fun source => ?_
    split
    · exact .of_same fun _ => rfl
    · refine .bind (.forM _ fun remark => within_log _) fun _ => ?_
      split
      · exact .of_same fun _ => rfl
      · exact .bind (within_log _) fun _ => .of_same fun _ => rfl

namespace Machine

/-- The environment of the Desktopfile that is found in a directory, if there is one. -/
def environmentIn (machine : Machine) (directory : Path) :
    Except ActivationError (Option (Path × Environment)) :=
  ((loadEnvironment .host directory : ExceptT ActivationError (StateM Machine) _).run machine).1

/-- What the source of a Desktopfile is evaluated to is what is found. -/
theorem environmentIn_of_source {machine : Machine} {directory : Path} {place : Location}
    {executable : Bool} {source : String} {environment : Environment}
    (hinspect : machine.files.inspect machine.directory (directory.join desktopfileName) =
      .ok (place, .file (TextUnit.ofText source) executable))
    (hevaluate : Environment.evaluate .host (directory.join desktopfileName).shown source =
      .ok environment) :
    machine.environmentIn directory =
      .ok (some (directory.join desktopfileName, environment)) := by
  have hfile : (Host.isFile (directory.join desktopfileName) :
      ExceptT ActivationError (StateM Machine) _).run machine = (.ok (.ok true), machine) := by
    refine (run_lift _ machine).trans ?_
    simp only [Host.isFile, hinspect]
  obtain ⟨-, hread⟩ := Files.readText_of_inspect hinspect
  obtain ⟨logged, hlogged, -⟩ := run_forM_log (ε := ActivationError)
    (Remark.logEntry .host) (Remark.ofSource .host source) machine
  rw [environmentIn, loadEnvironment, run_bind_of_ok hfile]
  dsimp only
  rw [run_readText, hread]
  dsimp only
  rw [run_bind_of_ok hlogged, hevaluate]
  rfl

/-- A variant of a workspace as it is found on a machine. -/
def activationIn (machine : Machine) (workspace : Workspace) (variant : String) :
    Except ActivationError Activation :=
  match machine.environmentIn workspace.path with
  | .error error => .error error
  | .ok none => .ok ⟨workspace.name, variant, workspace.path, .empty⟩
  | .ok (some (desktopfile, environment)) =>
    match environment.get? variant with
    | none => .error (.missingVariant variant desktopfile)
    | some configuration => .ok ⟨workspace.name, variant, workspace.path, configuration⟩

end Machine

namespace Session

variable (session : Session)

theorem looks_workspace (name : String) :
    Looks (session.workspace name : CommandM Workspace) := by
  rw [workspace]
  split
  · exact .throw rfl
  · exact .of_ok fun _ => ⟨_, rfl⟩

theorem within_prepare (name : String) (variant : Option String) :
    Within Machine.LogsTo (session.prepare name variant : CommandM Activation).run := by
  refine .bind (session.looks_workspace name).within fun workspace => .adapt ?_ _
  refine .bind (within_loadEnvironment _ _) fun found => ?_
  split
  · exact .bind (within_log _) fun _ => .of_same fun _ => rfl
  · split <;> exact .of_same fun _ => rfl

/-- What is prepared in a session on a machine. -/
def prepared (machine : Machine) (name : String) (variant : Option String) :
    Except Failure Activation :=
  ((session.prepare name variant : CommandM Activation).run machine).1

/-- What is done with a prepared variant begins where only the log has grown. -/
theorem run_prepare_bind (machine : Machine) (name : String) (variant : Option String) :
    ∃ logged, machine.LogsTo logged ∧ ∀ next : Activation → CommandM Unit,
      (session.prepare name variant >>= next : CommandM Unit).run machine =
        match session.prepared machine name variant with
        | .error failure => (.error failure, logged)
        | .ok activation => (next activation).run logged := by
  have hlogged := session.within_prepare name variant machine
  rw [prepared]
  cases hprepare : (session.prepare name variant : CommandM Activation).run machine with
  | mk result logged =>
      rw [hprepare] at hlogged
      refine ⟨logged, hlogged, ?_⟩
      intro next
      cases result with
      | error failure => exact Machine.run_bind_of_error hprepare
      | ok activation => exact Machine.run_bind_of_ok hprepare

theorem run_workspace_of_found {name : String} {workspace : Workspace}
    (h : session.store.find? name = some workspace) (machine : Machine) :
    (session.workspace name : CommandM Workspace).run machine = (.ok workspace, machine) := by
  rw [Session.workspace, h]
  rfl

theorem run_workspace_of_missing {name : String} (h : session.store.find? name = none)
    (machine : Machine) :
    (session.workspace name : CommandM Workspace).run machine =
      (.error (.missingWorkspace name), machine) := by
  rw [Session.workspace, h]
  rfl

theorem prepared_of_missing {name : String} (h : session.store.find? name = none)
    (machine : Machine) (variant : Option String) :
    session.prepared machine name variant = .error (.missingWorkspace name) := by
  rw [prepared, prepare, Machine.run_bind_of_error (session.run_workspace_of_missing h machine)]

/-- A variant is prepared from what the Desktopfile in the directory declares. -/
theorem prepared_of_found {name : String} {workspace : Workspace}
    (h : session.store.find? name = some workspace) (machine : Machine)
    (variant : Option String) :
    session.prepared machine name variant =
      (machine.activationIn workspace (session.variantOr variant)).mapError .activation := by
  rw [prepared, prepare, Machine.run_bind_of_ok (session.run_workspace_of_found h machine),
    run_adapt, Activation.prepare]
  dsimp only
  congr 1
  rw [Machine.activationIn, Machine.environmentIn]
  cases hload : (loadEnvironment .host workspace.path :
      ExceptT ActivationError (StateM Machine) _).run machine with
  | mk result after =>
      cases result with
      | error error =>
          rw [Machine.run_bind_of_error hload]
      | ok found =>
          rw [Machine.run_bind_of_ok hload]
          cases found with
          | none => rfl
          | some found =>
              obtain ⟨desktopfile, environment⟩ := found
              dsimp only
              cases environment.get? (session.variantOr variant) <;> rfl

theorem reads_prepare (name : String) (variant : Option String) :
    Reads (session.prepare name variant : CommandM Activation) where
  same := (session.within_prepare name variant).mono fun _ _ h => h.sameFiles
  early := (session.looks_workspace name).early.bind fun _ => .adapt fun _ => rfl

theorem reads_listWorkspaces : Reads (session.listWorkspaces : CommandM Unit) := by
  rw [listWorkspaces]
  split
  · exact reads_tell _
  · exact .bind reads_now fun _ => .forM _ fun _ => reads_tell _

theorem reads_listTags : Reads (session.listTags : CommandM Unit) := by
  rw [listTags]
  split
  · exact reads_tell _
  · exact .forM _ fun _ => reads_tell _

theorem reads_showTag (tag : String) : Reads (session.showTag tag : CommandM Unit) := by
  rw [showTag]
  split
  · exact .throw rfl
  · exact reads_tell _
  · exact .bind reads_now fun _ => .forM _ fun _ => reads_tell _

theorem reads_showTagsOf (name : String) :
    Reads (session.showTagsOf name : CommandM Unit) := by
  rw [showTagsOf]
  split
  · exact .throw rfl
  · split
    · exact reads_tell _
    · exact .forM _ fun _ => reads_tell _

theorem reads_showTarget (tag workspace : Option String) :
    Reads (session.showTarget tag workspace : CommandM Unit) := by
  unfold showTarget
  split
  · exact session.reads_showTag _
  · exact session.reads_showTagsOf _
  · exact .throw rfl

theorem reads_printScript (name : String) (variant : Option String) :
    Reads (session.printScript name variant : CommandM Unit) :=
  (session.reads_prepare name variant).bind fun _ => reads_print _ _

theorem reads_check (name : String) : Reads (session.check name : CommandM Unit) := by
  have hload (workspace : Workspace) : Reads
      (ExceptT.adapt .activation (loadEnvironment .host workspace.path) : CommandM _) :=
    ⟨.adapt ((within_loadEnvironment _ _).mono fun _ _ h => h.sameFiles) _, .adapt fun _ => rfl⟩
  refine .bind (session.looks_workspace name).reads fun workspace =>
    .bind (hload workspace) fun found => ?_
  split
  · exact reads_tell _
  · split
    · exact reads_tell _
    · exact .bind (.forM _ fun _ => reads_tell _) fun _ => reads_tell _

/-! ## Saving and running -/

variable {α : Type}

/-- What an operation refuses is not saved. -/
theorem run_save_of_error (error : StoreError) (store : Store) (machine : Machine) :
    (session.save ((.error error, store) : Except StoreError α × Store) : CommandM Unit).run
      machine = (.error (.store error), machine) :=
  rfl

/-- What an operation leaves is saved as it is. -/
theorem run_save_of_ok (answer : α) (store : Store) (machine : Machine) :
    (session.save (.ok answer, store) : CommandM Unit).run machine =
      (((store.save session.storeFile : StoreM Unit).run machine).1.mapError
          (.storeNotSaved session.storeFile),
        ((store.save session.storeFile : StoreM Unit).run machine).2) :=
  run_adapt (Failure.storeNotSaved session.storeFile) (store.save session.storeFile) machine

/-- How saving in a session ends: it wrote the text of the store, or failed and made
directories only. -/
theorem run_save (answer : α) (store : Store) (machine : Machine) :
    (∃ error, (session.save (.ok answer, store) : CommandM Unit).run machine =
        (.error (.storeNotSaved session.storeFile error), machine.withWay session.storeFile)) ∨
      ∃ files, (store.save session.storeFile : StoreM Unit).run machine =
          (.ok (), { machine.withWay session.storeFile with files := files }) ∧
        (session.save (.ok answer, store) : CommandM Unit).run machine =
          (.ok (), { machine.withWay session.storeFile with files := files }) := by
  rw [run_save_of_ok]
  rcases machine.run_save store session.storeFile with ⟨error, hsave⟩ | ⟨_, files, _, _, hsave⟩
  · rw [hsave]
    exact .inl ⟨error, rfl⟩
  · rw [hsave]
    exact .inr ⟨files, rfl, rfl⟩

/-- A session that saves has saved what an operation left that succeeded. -/
theorem save_eq_ok {changed : Except StoreError α × Store} {machine saved : Machine}
    (h : (session.save changed : CommandM Unit).run machine = (.ok (), saved)) :
    (changed.2.save session.storeFile : StoreM Unit).run machine = (.ok (), saved) := by
  obtain ⟨error | answer, store⟩ := changed
  · cases h
  rw [run_save_of_ok] at h
  cases hsave : (store.save session.storeFile : StoreM Unit).run machine with
  | mk result after =>
      rw [hsave] at h
      cases result with
      | error error => cases h
      | ok _ =>
          cases h
          rfl

end Session

/-- A command runs in the session that is found on the machine. -/
theorem run_command (command : Command) (machine : Machine) :
    (command.run : CommandM Unit).run machine =
      match machine.foundSession with
      | .error failure => (.error failure, machine)
      | .ok session => (command.runIn session : CommandM Unit).run machine := by
  have hstart := machine.run_start
  cases hsession : machine.foundSession with
  | error failure =>
      rw [hsession] at hstart
      exact Machine.run_bind_of_error hstart
  | ok session =>
      rw [hsession] at hstart
      exact Machine.run_bind_of_ok hstart

end Workspaces
