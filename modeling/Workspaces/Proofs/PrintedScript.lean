import Workspaces.Proofs.UnchangedFiles

/-!
# The script that is printed

A workspace is started from the script that is printed for it.  Both commands find and
prepare the same activation, and fail alike if there is none.  Only then does the one
that starts the workspace save the store, write the script to a new file and hand over
to the shell, so what can still fail is one of these three.
-/

namespace Workspaces

variable {machine after : Machine} {session : Session} {activation : Activation} {touched : Store}
  {shell text name : String} {directory path : Path}

/-! ## Making a script -/

namespace Machine

/-- A script is made under the name that comes next, if it is free. -/
theorem createScript_of_vacant {place : Location}
    (h : machine.files.find .entry machine.directory
      (directory.join (scriptName machine.nextScript)) = .ok (.vacant place))
    (text : String) (tries : Nat) :
    createScript directory text (tries + 1) machine =
      (.ok (directory.join (scriptName machine.nextScript)),
        { machine with
          nextScript := machine.nextScript + 1
          files := machine.files.set place (.file (TextUnit.ofText text) false) }) := by
  rw [createScript]
  dsimp only
  rw [Files.create, h]

/-- A script that was made holds its text. -/
theorem readText_of_createScript {tries : Nat}
    (h : createScript directory text tries machine = (.ok path, after)) :
    after.files.readText after.directory path = .ok text := by
  fun_induction createScript directory text tries machine with
  | case1 => cases h
  | case2 tries machine path next node files hcreate =>
      obtain ⟨hpath, rfl⟩ := Prod.mk.inj h
      rw [← Except.ok.inj hpath]
      obtain ⟨place, -, -, hinspect⟩ := Files.create_eq_ok hcreate (by simp [node])
      exact (Files.readText_of_inspect hinspect).2
  | case3 tries machine path next node hcreate ih => exact ih h
  | case4 tries machine path next node fault hcreate hother => cases h

end Machine

/-! ## Starting a shell -/

/-- A program that is found along the search path is started. -/
theorem Machine.startPlace_of_found {invocation : Invocation} {place program : Location}
    {searchPath : String}
    (hnul : invocation.hasNul = false)
    (hdirectory : machine.files.inspect machine.directory invocation.directory =
      .ok (place, .directory))
    (hpath : machine.env.get? "PATH" = some searchPath)
    (hprogram : machine.files.findProgram place searchPath invocation.program = .ok program) :
    machine.startPlace invocation = .ok program := by
  rw [startPlace, if_neg (by simp [hnul]), hdirectory, hpath]
  exact hprogram

/-- A shell that is started in a directory and told to read a script first. -/
structure Invocation.Asks (invocation : Invocation) (shell : String) (script directory : Path) :
    Prop where
  program : invocation.program = .ofText shell
  arguments : invocation.arguments = [.ofText "--init-file", script, .ofText "-i"]
  directory : invocation.directory = directory

/-- How the start of a shell in a directory ends.  A script with the text is made among the
scripts, or it is tried in vain.  Once the script is there, nothing is done but entered in
the log, and the shell is asked to read the script first. -/
inductive Launches (shell : String) (scripts directory : Path) (text : String)
    (before : Machine) : Except LaunchError Unit → Machine → Prop
  | notCreated {fault : ScriptFault} {after : Machine}
      (hcreate : (Host.createScript scripts text : StateM Machine _) before =
        (.error fault, after)) :
      Launches shell scripts directory text before (.error (.ofScriptFault scripts fault)) after
  | notStarted {script : Path} {fault : Fault} {written after : Machine}
      (hcreate : (Host.createScript scripts text : StateM Machine _) before =
        (.ok script, written))
      (hlogged : written.LogsTo after)
      (htext : after.files.readText after.directory script = .ok text)
      (hasked : Invocation.Asks ⟨shell, script, directory⟩ shell script directory)
      (hfault : after.startPlace ⟨shell, script, directory⟩ = .error fault) :
      Launches shell scripts directory text before (.error (.notStarted shell fault)) after
  | started {script : Path} {place : Location} {written logged : Machine}
      (hcreate : (Host.createScript scripts text : StateM Machine _) before =
        (.ok script, written))
      (hlogged : written.LogsTo logged)
      (htext : logged.files.readText logged.directory script = .ok text)
      (hasked : Invocation.Asks ⟨shell, script, directory⟩ shell script directory)
      (hplace : logged.startPlace ⟨shell, script, directory⟩ = .ok place) :
      Launches shell scripts directory text before (.ok ())
        (logged.record (.handedOver ⟨shell, script, directory⟩ place))

/-- How the start of a workspace ends in a session that has touched it.  The store is saved, or
it is tried in vain; once it is saved, nothing but an event is added before the shell is
started. -/
inductive Starts (session : Session) (touched : Store) (directory : Path) (text : String)
    (before : Machine) : Except Failure Unit → Machine → Prop
  | notSaved {error : StoreError} {after : Machine}
      (hsave : (touched.save session.storeFile : StoreM Unit).run before = (.error error, after)) :
      Starts session touched directory text before
        (.error (.storeNotSaved session.storeFile error)) after
  | saved {saved noted after : Machine} {scripts : Path} {result : Except LaunchError Unit}
      (hsave : (touched.save session.storeFile : StoreM Unit).run before = (.ok (), saved))
      (hnoted : noted = { saved with events := noted.events })
      (hscripts : (scriptDirectory : CommandM Path).run noted = (.ok scripts, noted))
      (hlaunch : Launches session.settings.shell scripts directory text noted result after) :
      Starts session touched directory text before (result.mapError .launch) after

theorem Starts.precedesSaving_eq_false {before : Machine} {failure : Failure}
    (h : Starts session touched directory text before (.error failure) after) :
    failure.precedesSaving = false := by
  generalize hresult : Except.error failure = result at h
  cases h with
  | notSaved hsave =>
      cases hresult
      rfl
  | @saved _ _ _ _ launched _ _ _ _ =>
      cases launched with
      | error error =>
          cases hresult
          rfl
      | ok value => cases hresult

/-- The shell is asked to read the script that was made. -/
theorem launches_handOver {before written logged : Machine} {scripts script : Path}
    (hcreate : (Host.createScript scripts text : StateM Machine _) before = (.ok script, written))
    (hlogged : written.LogsTo logged)
    (htext : written.files.readText written.directory script = .ok text)
    {result : Except LaunchError Unit}
    (h : (do
      match ← Host.handOver ⟨shell, script, directory⟩ with
      | .error fault => throw (.notStarted shell fault)
      | .ok () => return () : ExceptT LaunchError (StateM Machine) Unit).run logged =
        (result, after)) : Launches shell scripts directory text before result after := by
  have hstart := run_handOver (ε := LaunchError) ⟨shell, script, directory⟩ logged
  rw [← hlogged.sameFiles.files, ← hlogged.sameFiles.directory] at htext
  cases hplace : logged.startPlace ⟨shell, script, directory⟩ with
  | error fault =>
      rw [hplace] at hstart
      rw [Machine.run_bind_of_ok hstart] at h
      cases h
      exact .notStarted hcreate hlogged htext ⟨rfl, rfl, rfl⟩ hplace
  | ok place =>
      rw [hplace] at hstart
      rw [Machine.run_bind_of_ok hstart] at h
      cases h
      exact .started hcreate hlogged htext ⟨rfl, rfl, rfl⟩ hplace

/-- Once the script is made, it is what the shell is asked to read. -/
theorem launches_launch {scripts : Path} {script : Script} {result : Except LaunchError Unit}
    (h : (launch shell scripts script directory : ExceptT LaunchError (StateM Machine) Unit).run
      machine = (result, after)) :
    Launches shell scripts directory script.text machine result after := by
  have hwrite := run_writeScript scripts script machine
  cases hcreate : (Host.createScript scripts script.text : StateM Machine _) machine with
  | mk made written =>
      rw [hcreate] at hwrite
      cases made with
      | error fault =>
          rw [launch, Machine.run_bind_of_error hwrite] at h
          cases h
          exact .notCreated hcreate
      | ok path =>
          have htext : written.files.readText written.directory path = .ok script.text :=
            Machine.readText_of_createScript hcreate
          rw [launch, Machine.run_bind_of_ok hwrite, Machine.run_bind_of_ok (run_log _ _),
            Machine.run_bind_of_ok (run_log _ _)] at h
          refine launches_handOver hcreate ?_ htext h
          exact ⟨[startingEntry shell directory, scriptWrittenEntry path shell], rfl⟩

/-- A workspace that is remembered can be touched. -/
theorem Store.touch_of_found {store : Store} {workspace : Workspace}
    (h : store.find? name = some workspace) (now : Instant) :
    ∃ touched, store.touch now name = (.ok (), touched) := by
  have hchanged : ∀ workspaces : List Workspace,
      (workspaces.find? fun other => other.name = name) = some workspace →
        ∃ changed, updateFirst name (fun other => { other with lastUsedAt := now }) workspaces =
          some changed := by
    intro workspaces hfind
    induction workspaces with
    | nil => cases hfind
    | cons first workspaces ih =>
        rw [updateFirst]
        by_cases hname : first.name = name
        · exact ⟨_, if_pos hname⟩
        · rw [List.find?_cons_of_neg (by simpa using hname)] at hfind
          obtain ⟨changed, hchanged⟩ := ih hfind
          exact ⟨first :: changed, by rw [if_neg hname, hchanged, Option.map_some]⟩
  obtain ⟨changed, hchanged⟩ := hchanged store.workspaces h
  exact ⟨{ store with workspaces := changed }, by rw [touch, update, hchanged]⟩

/-- A prepared workspace is touched, and started from its script. -/
theorem starts_activate {before : Machine} {result : Except Failure Unit}
    (hbefore : { machine with readings := machine.readings + 1 } = before)
    (htouch : session.store.touch (machine.clock machine.readings) activation.workspace =
      (.ok (), touched))
    (h : (session.activate activation : CommandM Unit).run machine = (result, after)) :
    Starts session touched activation.directory activation.script.text before result after := by
  have hsaved := session.run_save_of_ok () touched before
  rw [Session.activate, Machine.run_bind_of_ok (run_now machine), htouch, hbefore] at h
  cases hsave : (touched.save session.storeFile : StoreM Unit).run before with
  | mk saving saved =>
      rw [hsave] at hsaved
      cases saving with
      | error error =>
          rw [Machine.run_bind_of_error hsaved] at h
          cases h
          exact .notSaved hsave
      | ok value =>
          rw [Machine.run_bind_of_ok hsaved, Machine.run_bind_of_ok (run_tell _ _),
            Machine.run_bind_of_ok (run_log _ _)] at h
          generalize hrecord : Machine.record _ _ = noted at h
          have hnoted : noted = { saved with events := noted.events } := by
            rw [← hrecord]
            rfl
          obtain ⟨scripts, hscripts⟩ : ∃ scripts,
              (scriptDirectory : CommandM Path).run noted = (.ok scripts, noted) :=
            ⟨_, run_scriptDirectory noted⟩
          rw [Machine.run_bind_of_ok hscripts, run_adapt] at h
          cases hlaunched : (launch session.settings.shell scripts activation.script
              activation.directory : ExceptT LaunchError (StateM Machine) Unit).run noted with
          | mk launched ended =>
              rw [hlaunched] at h
              cases h
              exact .saved hsave hnoted hscripts (launches_launch hlaunched)

/-! ## Printing and starting -/

namespace Session

variable (session : Session)

/-- What is prepared belongs to the workspace of the name. -/
theorem exists_of_prepared {variant : Option String}
    (h : session.prepared machine name variant = .ok activation) :
    ∃ workspace, session.store.find? name = some workspace ∧
      activation.workspace = workspace.name ∧ activation.directory = workspace.path := by
  cases hfind : session.store.find? name with
  | none =>
      rw [session.prepared_of_missing hfind] at h
      cases h
  | some workspace =>
      rw [session.prepared_of_found hfind, Machine.activationIn] at h
      refine ⟨workspace, rfl, ?_⟩
      split at h
      · cases h
      · cases h
        exact ⟨rfl, rfl⟩
      · split at h
        · cases h
        · cases h
          exact ⟨rfl, rfl⟩

end Session

/-- Both commands prepare the same activation.  They fail alike if there is none, and have
only added to the log until they use it. -/
theorem run_script_and_go (machine : Machine) (name : String) (variant : Option String) :
    ∃ logged, machine.LogsTo logged ∧
      ((∃ failure, failure.precedesSaving = true ∧
          ((Command.script name variant).run : CommandM Unit).run machine =
            (.error failure, logged) ∧
          ((Command.go name variant).run : CommandM Unit).run machine = (.error failure, logged)) ∨
        ∃ session activation, machine.foundSession = .ok session ∧
          session.prepared machine name variant = .ok activation ∧
          ((Command.script name variant).run : CommandM Unit).run machine =
            (.ok (), logged.record (.printed .output activation.script.text)) ∧
          ((Command.go name variant).run : CommandM Unit).run machine =
            (session.activate activation : CommandM Unit).run logged) := by
  rw [run_command, run_command]
  cases hsession : machine.foundSession with
  | error failure =>
      have hearly : failure.precedesSaving = true := by
        apply looks_start.early machine failure
        rw [machine.run_start, hsession]
      exact ⟨machine, refl machine, .inl ⟨failure, hearly, rfl, rfl⟩⟩
  | ok session =>
      obtain ⟨logged, hlogged, hrun⟩ := session.run_prepare_bind machine name variant
      refine ⟨logged, hlogged, ?_⟩
      dsimp only [Command.runIn, Session.printScript, Session.go]
      rw [hrun, hrun]
      cases hprepared : session.prepared machine name variant with
      | error failure =>
          have hearly : failure.precedesSaving = true :=
            (session.reads_prepare name variant).early machine failure hprepared
          exact .inl ⟨failure, hearly, rfl, rfl⟩
      | ok activation =>
          exact .inr ⟨session, activation, rfl, hprepared, rfl, rfl⟩

/-- Starting a workspace and printing its script fail alike until there is an activation, and
then neither has changed a file or printed anything.  If the script is printed, the workspace
is touched at the time of the clock and started from the very text that is printed: what
can still fail is saving the store, making the script, or starting the shell. -/
theorem go_starts_printed_script (machine : Machine) (name : String) (variant : Option String) :
    let script := ((Command.script name variant).run : CommandM Unit).run machine
    let go := ((Command.go name variant).run : CommandM Unit).run machine
    (∀ failure, script.1 = .error failure ↔
        go.1 = .error failure ∧ failure.precedesSaving = true) ∧
      (∀ failure, script.1 = .error failure →
        script.2.files = machine.files ∧ go.2.files = machine.files ∧
          script.2.printed = machine.printed) ∧
      (script.1 = .ok () → ∃ text session workspace touched before,
        script.2.printed = machine.printed ++ [(.output, text)] ∧
          machine.foundSession = .ok session ∧ session.store.find? name = some workspace ∧
          session.store.touch (machine.clock machine.readings) name = (.ok (), touched) ∧
          before = { machine with readings := machine.readings + 1, events := before.events } ∧
          Starts session touched workspace.path text before go.1 go.2) := by
  intro script go
  obtain ⟨logged, hlogged, ⟨error, hearly, hscript, hgo⟩ |
    ⟨session, activation, hsession, hprepared, hscript, hgo⟩⟩ :=
      run_script_and_go machine name variant
  · have hfiles : logged.files = machine.files := hlogged.sameFiles.files
    rw [show script = (.error error, logged) from hscript,
      show go = (.error error, logged) from hgo]
    refine ⟨?_, ?_, ?_⟩
    · intro failure
      constructor
      · intro h
        cases h
        exact ⟨rfl, hearly⟩
      · intro h
        exact h.1
    · intro failure _
      exact ⟨hfiles, hfiles, hlogged.printed⟩
    · intro h
      cases h
  · obtain ⟨workspace, hfound, hname, hdirectory⟩ := session.exists_of_prepared hprepared
    have hsame : activation.workspace = name := by
      rw [hname]
      simpa using List.find?_some hfound
    obtain ⟨touched, htouched⟩ := Store.touch_of_found hfound (machine.clock machine.readings)
    have hprinted := hlogged.printed
    obtain ⟨entries, rfl⟩ := hlogged
    have hstarts : Starts session touched activation.directory activation.script.text
        { machine with
          readings := machine.readings + 1
          events := entries.map .logged ++ machine.events } go.1 go.2 := by
      exact starts_activate rfl (hsame ▸ htouched) hgo.symm
    rw [hdirectory] at hstarts
    rw [show script = _ from hscript]
    refine ⟨?_, ?_, ?_⟩
    · intro failure
      constructor
      · intro h
        cases h
      · rintro ⟨hfailure, hearly⟩
        rw [hfailure] at hstarts
        rw [hstarts.precedesSaving_eq_false] at hearly
        cases hearly
    · intro failure h
      cases h
    · intro _
      refine ⟨activation.script.text, session, workspace, touched, _, ?_, hsession, hfound,
        htouched, rfl, hstarts⟩
      rw [Machine.printed_record, hprinted]

namespace Machine

/-- Where the first script is made. -/
def firstScript : Location := ["tmp", "desktop000000.sh"].map TextUnit.ofText

set_option maxRecDepth 10000 in
/-- The first script can be made, and then a shell can be started. -/
theorem scripts_withApi (contents : List TextUnit) (node : Node) :
    (withApi contents).files.find .entry [] ((Path.ofText "/tmp").join (scriptName 0)) =
        .ok (.vacant firstScript) ∧
      ((withApi contents).files.set firstScript node).inspect [] (.ofText "/api") =
        .ok ([TextUnit.ofText "api"], .directory) ∧
      ((withApi contents).files.set firstScript node).findProgram [TextUnit.ofText "api"] "/bin"
          (.ofText "bash") =
        .ok (["bin", "bash"].map TextUnit.ofText) := by
  refine ⟨?_, ?_, ?_⟩ <;> cbv

/-- The machine is the one above, but for its store and for what has happened on it. -/
structure IsLikeApi (machine : Machine) (contents : List TextUnit) : Prop where
  same : (withApi contents).SameFiles machine
  env : machine.env = (withApi contents).env
  nextScript : machine.nextScript = 0

section

variable {machine after : Machine} {contents : List TextUnit} {scripts : Path} {text : String}

theorem IsLikeApi.createScript (h : machine.IsLikeApi contents) (text : String) :
    ∃ script written, (Host.createScript (.ofText "/tmp") text : StateM Machine _) machine =
        (.ok script, written) ∧
      written.startPlace ⟨"bash", script, .ofText "/api"⟩ =
        .ok (["bin", "bash"].map TextUnit.ofText) := by
  obtain ⟨hvacant, hdirectory, hprogram⟩ :=
    scripts_withApi contents (.file (TextUnit.ofText text) false)
  rw [← h.same.files] at hvacant hdirectory hprogram
  have hfree : machine.files.find .entry machine.directory
      ((Path.ofText "/tmp").join (scriptName machine.nextScript)) = .ok (.vacant firstScript) := by
    rw [h.same.directory, h.nextScript]
    exact hvacant
  refine ⟨_, _, createScript_of_vacant hfree text machine.files.entries.length, ?_⟩
  apply startPlace_of_found _ _ _ hprogram
  · rw [h.nextScript]
    decide
  · rw [h.same.directory]
    exact hdirectory
  · rw [h.env]
    rfl

/-- The shell is started. -/
theorem IsLikeApi.launches {result : Except LaunchError Unit} (h : machine.IsLikeApi contents)
    (hscripts : (scriptDirectory : CommandM Path).run machine = (.ok scripts, machine))
    (hlaunch : Launches "bash" scripts (.ofText "/api") text machine result after) :
    result = .ok () := by
  have htemporary : (withApi contents).env.get? "TMPDIR" = none := rfl
  rw [run_scriptDirectory, h.env, htemporary] at hscripts
  cases hscripts
  obtain ⟨script, written, hcreate, hplace⟩ := h.createScript text
  cases hlaunch with
  | notCreated hfails => cases hcreate.symm.trans hfails
  | notStarted hmade hlogged _ _ hfault =>
      cases hcreate.symm.trans hmade
      rw [hlogged.startPlace, hplace] at hfault
      cases hfault
  | started => rfl

end

/-- The workspace is saved and its shell is started. -/
theorem starts_apiSession {before after : Machine} {text : String} {result : Except Failure Unit}
    (hbefore : before =
      { apiMachine with readings := apiMachine.readings + 1, events := before.events })
    (h : Starts apiSession apiStore (.ofText "/api") text before result after) :
    result = .ok () := by
  have hsame : apiMachine.SameFiles before := by
    rw [hbefore]
    exact ⟨rfl, rfl⟩
  have hsaved := run_save_withApi _ hsame text?_apiStore
  cases h with
  | notSaved hfails => cases hsaved.symm.trans hfails
  | @saved _ noted _ _ _ hsave hnoted hscripts hlaunch =>
      cases hsaved.symm.trans hsave
      have hlike : noted.IsLikeApi (TextUnit.ofText apiStoreText) := by
        rw [hnoted, hbefore]
        exact ⟨⟨rfl, rfl⟩, rfl, rfl⟩
      rw [hlike.launches hscripts hlaunch]
      rfl

end Machine

/-- The variant of the workspace is printed, and a shell is started with it. -/
theorem go_starts_printed_script_dev :
    let script := ((Command.script "api" (some "dev")).run : CommandM Unit).run Machine.apiMachine
    let go := ((Command.go "api" (some "dev")).run : CommandM Unit).run Machine.apiMachine
    script.1 = .ok () ∧ script.2.printed = [(.output, devScript.text)] ∧ go.1 = .ok () ∧
      ∃ before, Starts Machine.apiSession Machine.apiStore (.ofText "/api") devScript.text
        before (.ok ()) go.2 := by
  intro script go
  obtain ⟨logged, hlogged, hrun⟩ :=
    Machine.apiSession.run_prepare_bind Machine.apiMachine "api" (some "dev")
  have hscript : script = (.ok (), logged.record (.printed .output devScript.text)) := by
    have hsteps : script = (Machine.apiSession.printScript "api" (some "dev") : CommandM Unit).run
        Machine.apiMachine := by
      refine (run_command _ _).trans ?_
      rw [Machine.foundSession_apiMachine]
      rfl
    rw [hsteps, Session.printScript, hrun, Machine.prepared_apiMachine]
    rfl
  have hprinted : script.2.printed = [(.output, devScript.text)] := by
    rw [hscript, Machine.printed_record, hlogged.printed]
    rfl
  obtain ⟨-, -, hstarts⟩ := go_starts_printed_script Machine.apiMachine "api" (some "dev")
  obtain ⟨text, session, workspace, touched, before, htold, hsession, hfound, htouched, hbefore,
    hgo⟩ := hstarts (congrArg Prod.fst hscript)
  cases hsession.symm.trans Machine.foundSession_apiMachine
  cases hfound
  cases htouched
  have hsame : text = devScript.text := by
    have hboth : [(Channel.output, text)] = [(.output, devScript.text)] :=
      htold.symm.trans hprinted
    simpa using hboth
  subst hsame
  have hdone : go.1 = .ok () := Machine.starts_apiSession hbefore hgo
  exact ⟨congrArg Prod.fst hscript, hprinted, hdone, before, hdone ▸ hgo⟩

end Workspaces
