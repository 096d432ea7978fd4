import Workspaces.Proofs.ScriptReading
import Workspaces.Proofs.UnchangedFiles

/-!
# Checked variants

A check evaluates what the start of a workspace would evaluate, and lists the variants
that it finds with their sizes.  So its report foretells, for every variant, whether a
script is rendered for it, and of how many lines.
-/

namespace Workspaces

variable {machine : Machine} {session : Session} {workspace : Workspace} {name : String}

/-! ## What a check reports -/

/-- What a check tells of a variant. -/
structure VariantSizes where
  name : String
  variableCount : Nat
  aliasCount : Nat
  commandCount : Nat

/-- What a check tells of a workspace. -/
inductive CheckReport where
  | noDesktopfile (directory : Path)
  | noConfigurations (desktopfile : Path)
  | configurations (desktopfile : Path) (rows : List VariantSizes)

namespace VariantSizes

def notice (sizes : VariantSizes) : Notice :=
  .listing sizes.name
    (toString sizes.variableCount ++ " variable(s), " ++
      toString sizes.aliasCount ++ " alias(es), " ++
      toString sizes.commandCount ++ " command(s) on " ++ Platform.host.name)

def ofEntry (entry : String × Configuration) : VariantSizes :=
  ⟨entry.1, entry.2.exports.size, entry.2.aliases.size, entry.2.commands.length⟩

/-- A row is about the configuration that is looked up under its name. -/
theorem exists_of_mem_rows {environment : Environment} {row : VariantSizes}
    (h : row ∈ environment.toList.map ofEntry) :
    ∃ configuration, environment.get? row.name = some configuration ∧
      row = ofEntry (row.name, configuration) := by
  obtain ⟨entry, hentry, rfl⟩ := List.mem_map.mp h
  exact ⟨entry.2, Table.get?_eq_some_iff.mpr hentry, rfl⟩

end VariantSizes

namespace CheckReport

def notices : CheckReport → List Notice
  | noDesktopfile directory => [noDesktopfileNotice directory]
  | noConfigurations desktopfile => [noConfigurationsNotice desktopfile]
  | configurations desktopfile rows => rows.map VariantSizes.notice ++ [validNotice desktopfile]

/-- The report on what was found in a directory. -/
def ofFound (directory : Path) : Option (Path × Environment) → CheckReport
  | none => noDesktopfile directory
  | some (desktopfile, environment) =>
    if environment.isEmpty then noConfigurations desktopfile
    else configurations desktopfile (environment.toList.map VariantSizes.ofEntry)

end CheckReport

theorem run_forM_tell {α : Type} (row : α → Notice) (list : List α) (machine : Machine) :
    ∃ told, (list.forM fun value => (row value).tell : CommandM Unit).run machine = (.ok (), told) ∧
      told.shown = machine.shown ∧
      told.printed = machine.printed ++ list.map fun value => machine.shown (row value) := by
  induction list generalizing machine with
  | nil => exact ⟨machine, rfl, rfl, (List.append_nil _).symm⟩
  | cons value list ih =>
      obtain ⟨told, hrun, hshown, hprinted⟩ := ih
        (machine.record (.printed (row value).kind.channel (machine.shown (row value)).2))
      refine ⟨told, (Machine.run_bind_of_ok (run_tell (row value) machine)).trans hrun, hshown, ?_⟩
      rw [hprinted, Machine.printed_record, List.append_assoc]
      rfl

theorem Session.run_check_of_missing (h : session.store.find? name = none) (machine : Machine) :
    (session.check name : CommandM Unit).run machine = (.error (.missingWorkspace name), machine) :=
  Machine.run_bind_of_error (session.run_workspace_of_missing h machine)

/-- A check of a known workspace fails if its environment cannot be loaded, and tells what is
in it otherwise. -/
theorem Session.run_check_of_found (h : session.store.find? name = some workspace)
    (machine : Machine) :
    ∃ told, (session.check name : CommandM Unit).run machine =
        (((machine.environmentIn workspace.path).mapError .activation).map fun _ => (), told) ∧
      ∀ found, machine.environmentIn workspace.path = .ok found →
        told.printed =
          machine.printed ++
            (CheckReport.ofFound workspace.path found).notices.map machine.shown := by
  have hload := run_adapt Failure.activation
    (loadEnvironment .host workspace.path : ExceptT ActivationError (StateM Machine) _) machine
  have hlogged := within_loadEnvironment .host workspace.path machine
  rw [check, Machine.run_bind_of_ok (session.run_workspace_of_found h machine),
    Machine.environmentIn]
  cases hrun : (loadEnvironment .host workspace.path :
      ExceptT ActivationError (StateM Machine) _).run machine with
  | mk result logged =>
      rw [hrun] at hload hlogged
      have hprinted : logged.printed = machine.printed := hlogged.printed
      rw [← hlogged.shown]
      cases result with
      | error error =>
          refine ⟨logged, Machine.run_bind_of_error hload, ?_⟩
          intro found hfound
          cases hfound
      | ok found =>
          rw [Machine.run_bind_of_ok hload]
          cases found with
          | none =>
              refine ⟨_, run_tell _ logged, ?_⟩
              intro found hfound
              cases hfound
              rw [Machine.printed_record, hprinted]
              rfl
          | some declared =>
              obtain ⟨desktopfile, environment⟩ := declared
              dsimp only
              by_cases hempty : environment.isEmpty = true
              · rw [if_pos hempty]
                refine ⟨_, run_tell _ logged, ?_⟩
                intro found hfound
                cases hfound
                rw [Machine.printed_record, hprinted, CheckReport.ofFound, if_pos hempty]
                rfl
              · rw [if_neg hempty]
                obtain ⟨listed, hlist, hshown, hrows⟩ := run_forM_tell
                  (fun entry : String × Configuration => entry.2.row entry.1)
                  environment.toList logged
                refine ⟨_, (Machine.run_bind_of_ok hlist).trans (run_tell _ listed), ?_⟩
                intro found hfound
                cases hfound
                rw [Machine.printed_record, hshown, hrows, hprinted, CheckReport.ofFound,
                  if_neg hempty]
                simp only [CheckReport.notices, List.map_append, List.map_map, List.append_assoc]
                rfl

/-! ## The script of a variant -/

/-- The script that is rendered for a variant of a workspace on a machine. -/
def Machine.renderedScript (machine : Machine) (name variant : String) : Except Failure Script :=
  match machine.foundSession with
  | .error failure => .error failure
  | .ok session => (session.prepared machine name (some variant)).map Activation.script

/-- The rendered script is what is printed. -/
theorem run_script (machine : Machine) (name variant : String) :
    let script := ((Command.script name (some variant)).run : CommandM Unit).run machine
    script.1 = (machine.renderedScript name variant).map (fun _ => ()) ∧
      ∀ rendered, machine.renderedScript name variant = .ok rendered →
        script.2.printed = machine.printed ++ [(.output, rendered.text)] := by
  rw [run_command, Machine.renderedScript]
  cases machine.foundSession with
  | error failure =>
      refine ⟨rfl, ?_⟩
      intro rendered hrendered
      cases hrendered
  | ok session =>
      obtain ⟨logged, hlogged, hrun⟩ := session.run_prepare_bind machine name (some variant)
      dsimp only [Command.runIn, Session.printScript]
      rw [hrun]
      cases session.prepared machine name (some variant) with
      | error failure =>
          refine ⟨rfl, ?_⟩
          intro rendered hrendered
          cases hrendered
      | ok activation =>
          refine ⟨rfl, ?_⟩
          intro rendered hrendered
          cases hrendered
          rw [← hlogged.printed]
          exact Machine.printed_record logged _ _

namespace Script

variable (configuration : Configuration) (workspace variant : String)

theorem lines_render_empty :
    (render .empty workspace variant).lines = preamble workspace variant := by
  rw [lines_render_sections]
  exact List.append_nil _

/-- A script has a line for each variable, alias and command, and eight before them. -/
theorem length_lines_render :
    (render configuration workspace variant).lines.length =
      8 + configuration.exports.size + configuration.aliases.size +
        configuration.commands.length := by
  rw [lines_render_sections]
  have hpreamble : (preamble workspace variant).length = 8 := rfl
  simp only [List.length_append, List.length_map, hpreamble, Table.size]
  omega

end Script

/-! ## What a check foretells -/

/-- What is foretold of the script of a variant by how a check ended. -/
inductive Foretells (name variant : String) : Except Failure CheckReport → Except Failure Script →
    Prop
  | failed (failure : Failure) : Foretells name variant (.error failure) (.error failure)
  | noDesktopfile {directory : Path} {script : Script}
      (hlines : script.lines = Script.preamble name variant) (hlength : script.lines.length = 8) :
      Foretells name variant (.ok (.noDesktopfile directory)) (.ok script)
  | noConfigurations (desktopfile : Path) :
      Foretells name variant (.ok (.noConfigurations desktopfile))
        (.error (.activation (.missingVariant variant desktopfile)))
  | listed {desktopfile : Path} {rows : List VariantSizes} {script : Script}
      (hlisted : ∃ row ∈ rows, row.name = variant)
      (hlength : ∀ row ∈ rows, row.name = variant →
        script.lines.length = 8 + row.variableCount + row.aliasCount + row.commandCount) :
      Foretells name variant (.ok (.configurations desktopfile rows)) (.ok script)
  | unlisted {desktopfile : Path} {rows : List VariantSizes}
      (hunlisted : ∀ row ∈ rows, row.name ≠ variant) :
      Foretells name variant (.ok (.configurations desktopfile rows))
        (.error (.activation (.missingVariant variant desktopfile)))

/-- What a table of configurations says of a variant is what the rows say. -/
theorem foretells_ofFound (found : Option (Path × Environment)) (workspace : Workspace)
    (variant : String) (h : machine.environmentIn workspace.path = .ok found) :
    Foretells workspace.name variant (.ok (.ofFound workspace.path found))
      (((machine.activationIn workspace variant).mapError .activation).map Activation.script) := by
  rw [Machine.activationIn, h]
  cases found with
  | none =>
      exact .noDesktopfile (Script.lines_render_empty _ _) (Script.length_lines_render .empty _ _)
  | some declared =>
      obtain ⟨desktopfile, environment⟩ := declared
      dsimp only [CheckReport.ofFound]
      cases hget : environment.get? variant with
      | none =>
          by_cases hempty : environment.isEmpty = true
          · rw [if_pos hempty]
            exact .noConfigurations desktopfile
          · rw [if_neg hempty]
            apply Foretells.unlisted
            rintro row hrow rfl
            obtain ⟨configuration, hfound, _⟩ := VariantSizes.exists_of_mem_rows hrow
            rw [hget] at hfound
            cases hfound
      | some configuration =>
          have hmem : (variant, configuration) ∈ environment.toList :=
            Table.get?_eq_some_iff.mp hget
          have hempty : ¬ environment.isEmpty = true := by
            rw [Table.isEmpty, List.isEmpty_iff]
            exact List.ne_nil_of_mem hmem
          rw [if_neg hempty]
          refine .listed ⟨_, List.mem_map_of_mem hmem, rfl⟩ ?_
          rintro row hrow rfl
          obtain ⟨other, hfound, hrow⟩ := VariantSizes.exists_of_mem_rows hrow
          rw [hget] at hfound
          cases hfound
          rw [hrow]
          exact Script.length_lines_render _ _ _

/-- A check ends with a failure or with a report that it tells, and foretells every script. -/
theorem run_check (machine : Machine) (name : String) :
    ∃ report : Except Failure CheckReport,
      let checked := ((Command.check name).run : CommandM Unit).run machine
      checked.1 = report.map (fun _ => ()) ∧
        (∀ told, report = .ok told →
          checked.2.printed = machine.printed ++ told.notices.map machine.shown) ∧
        ∀ variant, Foretells name variant report (machine.renderedScript name variant) := by
  simp only [run_command, Machine.renderedScript]
  cases machine.foundSession with
  | error failure =>
      refine ⟨.error failure, rfl, ?_, fun _ => .failed failure⟩
      intro told htold
      cases htold
  | ok session =>
      dsimp only [Command.runIn]
      cases hfind : session.store.find? name with
      | none =>
          rw [session.run_check_of_missing hfind]
          refine ⟨.error (.missingWorkspace name), rfl, ?_, ?_⟩
          · intro told htold
            cases htold
          · intro variant
            rw [session.prepared_of_missing hfind]
            exact .failed _
      | some workspace =>
          have hname : workspace.name = name := by
            simpa using List.find?_some hfind
          obtain ⟨told, hrun, hprinted⟩ := session.run_check_of_found hfind machine
          rw [hrun]
          cases hfound : machine.environmentIn workspace.path with
          | error error =>
              refine ⟨.error (.activation error), rfl, ?_, ?_⟩
              · intro told htold
                cases htold
              · intro variant
                rw [session.prepared_of_found hfind, Machine.activationIn, hfound]
                exact .failed _
          | ok found =>
              refine ⟨.ok (.ofFound workspace.path found), rfl, ?_, ?_⟩
              · rintro report ⟨⟩
                exact hprinted found hfound
              · intro variant
                rw [session.prepared_of_found hfind, ← hname]
                exact foretells_ofFound found workspace variant hfound

/-- However a check of a workspace ends, it tells what becomes of every variant: if it fails,
no script is rendered and the failure is the same.  Without a Desktopfile every variant
has the preamble as its script.  Otherwise a script is rendered for the variants that are
listed and for no other, and its lines are as many as the sizes say. -/
theorem check_foretells_script (machine : Machine) (name : String) :
    ∃ report : Except Failure CheckReport,
      let checked := ((Command.check name).run : CommandM Unit).run machine
      checked.1 = report.map (fun _ => ()) ∧
        (∀ told, report = .ok told →
          checked.2.printed = machine.printed ++ told.notices.map machine.shown) ∧
        ∀ variant,
          let script := ((Command.script name (some variant)).run : CommandM Unit).run machine
          Foretells name variant report (machine.renderedScript name variant) ∧
            script.1 = (machine.renderedScript name variant).map (fun _ => ()) ∧
            ∀ rendered, machine.renderedScript name variant = .ok rendered →
              script.2.printed = machine.printed ++ [(.output, rendered.text)] := by
  obtain ⟨report, hresult, hprinted, hforetells⟩ := run_check machine name
  refine ⟨report, hresult, hprinted, ?_⟩
  intro variant
  exact ⟨hforetells variant, run_script machine name variant⟩

/-- One variant is listed, with a variable and a command, and no other one. -/
theorem check_foretells_script_dev :
    let checked := ((Command.check "api").run : CommandM Unit).run Machine.apiMachine
    checked.1 = .ok () ∧
      ∃ desktopfile rows, checked.2.printed =
          (CheckReport.configurations desktopfile rows).notices.map Machine.apiMachine.shown ∧
        (∃ row ∈ rows, row.name = "dev" ∧
          10 = 8 + row.variableCount + row.aliasCount + row.commandCount) ∧
        ∀ row ∈ rows, row.name ≠ "web" := by
  intro checked
  have hdev : Machine.apiMachine.renderedScript "api" "dev" = .ok devScript := by
    rw [Machine.renderedScript, Machine.foundSession_apiMachine]
    dsimp only
    rw [Machine.prepared_apiMachine]
    rfl
  have hweb : Machine.apiMachine.renderedScript "api" "web" =
      .error (.activation (.missingVariant "web" (.ofText "/api/Desktopfile"))) := by
    rw [Machine.renderedScript, Machine.foundSession_apiMachine]
    dsimp only
    rw [Machine.prepared_apiMachine]
    rfl
  obtain ⟨report, hresult, hprinted, hforetells⟩ :=
    check_foretells_script Machine.apiMachine "api"
  have hlisted := (hforetells "dev").1
  have hunlisted := (hforetells "web").1
  rw [hdev] at hlisted
  rw [hweb] at hunlisted
  have hlength : devScript.lines.length = 10 := by decide
  cases hlisted with
  | noDesktopfile _ hshort =>
      rw [hlength] at hshort
      cases hshort
  | @listed _ rows _ hmem hcount =>
      cases hunlisted with
      | unlisted hnone =>
          obtain ⟨row, hrow, hname⟩ := hmem
          refine ⟨hresult, _, rows, hprinted _ rfl, ⟨row, hrow, hname, ?_⟩, hnone⟩
          rw [← hlength]
          exact hcount row hrow hname

end Workspaces
