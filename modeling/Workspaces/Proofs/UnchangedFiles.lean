import Mathlib
import Workspaces.Proofs.Recognition
import Workspaces.Proofs.SavingCommands

/-!
# Files that stay as they are

A command that only reads leaves all files as they were.  The other commands change
files when they save the store, and later.  So a command that fails before it saves
leaves all files alone too, whatever it is that failed.
-/

namespace Workspaces

open Desktopfile

theorem reads_run (command : Command) (h : command.isReading = true) :
    Reads (command.run : CommandM Unit) :=
  .bind looks_start.reads fun session => reads_runIn session command h

/-- A command that only reads, or that fails before it saves, leaves every file and directory
as it was, and so every store that is kept in one. -/
theorem run_leaves_files (command : Command) (machine : Machine)
    (h : command.isReading = true ∨ ∃ failure,
      ((command.run : CommandM Unit).run machine).1 = .error failure ∧
        failure.precedesSaving = true) :
    ((command.run : CommandM Unit).run machine).2.files = machine.files ∧
      ∀ path, ((command.run : CommandM Unit).run machine).2.storeAt path = machine.storeAt path := by
  have hsame : machine.SameFiles ((command.run : CommandM Unit).run machine).2 := by
    rcases h with hreading | ⟨failure, hfailure, hearly⟩
    · exact (reads_run command hreading).same machine
    · exact sameFiles_of_precedesSaving command (Prod.ext hfailure rfl) hearly
  exact ⟨hsame.files, hsame.storeAt⟩

/-! A machine with one workspace, whose Desktopfile declares one variant. -/

def devDesktopfile : String := "configuration :dev do env 'A', '1'; cmd 'make' end"

def devConfiguration : Configuration := ⟨Table.empty.insert "A" "1", .empty, ["make"]⟩

def devScript : Script := .render devConfiguration "api" "dev"

set_option maxRecDepth 10000 in
theorem evaluate_dev (origin : String) :
    Environment.evaluate .host origin devDesktopfile =
      .ok (Table.empty.insert "dev" devConfiguration) := by
  have htokens : tokenize "configuration :dev do env 'A', '1'; cmd 'make' end" =
      .ok ⟨[⟨.word "configuration", ⟨1, 1⟩⟩, ⟨.symbol "dev", ⟨1, 15⟩⟩, ⟨.word "do", ⟨1, 20⟩⟩,
        ⟨.word "env", ⟨1, 23⟩⟩, ⟨.string "A", ⟨1, 27⟩⟩, ⟨.comma, ⟨1, 30⟩⟩,
        ⟨.string "1", ⟨1, 32⟩⟩, ⟨.semicolon, ⟨1, 35⟩⟩, ⟨.word "cmd", ⟨1, 37⟩⟩,
        ⟨.string "make", ⟨1, 41⟩⟩, ⟨.word "end", ⟨1, 48⟩⟩], ⟨1, 51⟩⟩ := by
    cbv
  have hvariable := Grammar.Derives.setVariable ⟨1, 23⟩
    (.bare (.more ⟨1, 30⟩ (.string "A" ⟨1, 27⟩) Grammar.newlines_nil
      (.single (.string "1" ⟨1, 32⟩))))
  have hcommand := Grammar.Derives.command ⟨1, 37⟩ (.bare (.single (.string "make" ⟨1, 41⟩)))
  have hgap : Grammar.Separators [⟨.semicolon, ⟨1, 35⟩⟩] :=
    Grammar.separators_cons.mpr ⟨rfl, Grammar.separators_nil⟩
  have hbody := Grammar.Derives.fullBody Grammar.separators_nil
    (.separated hvariable hgap (by simp) (.single hcommand)) Grammar.separators_nil
  have hvariants := Grammar.Variants.cons
    (.mk ⟨1, 1⟩ (.bare (.single (.symbol "dev" ⟨1, 15⟩))) (.doEnd ⟨1, 20⟩ ⟨1, 48⟩ hbody))
    Grammar.separators_nil .nil
  have hparse : Document.parse origin "configuration :dev do env 'A', '1'; cmd 'make' end" =
      .ok ⟨[⟨⟨1, 1⟩, "dev", [.setVariable ⟨1, 23⟩ "A" "1", .command ⟨1, 37⟩ "make"]⟩]⟩ :=
    Grammar.parse_eq_ok_iff.mpr ⟨_, htokens, [], _, rfl, Grammar.separators_nil, hvariants⟩
  rw [devDesktopfile, Environment.evaluate, hparse]
  cbv

namespace Machine

def apiStore : Store :=
  ⟨1, .ofList ["rust"], [⟨"api", "", .ofText "/api", .epoch, .epoch, .epoch, .ofList ["rust"]⟩]⟩

def apiStoreText : String :=
  "version = 1\ntags = [\"rust\"]\n" ++
  "\n[[workspaces]]\nname = \"api\"\ndescription = \"\"\npath = \"/api\"\n" ++
  "created_at = \"1970-01-01T00:00:00Z\"\nmodified_at = \"1970-01-01T00:00:00Z\"\n" ++
  "last_used_at = \"1970-01-01T00:00:00Z\"\ntags = [\"rust\"]\n"

/-- The store is in a file that holds the given text. -/
def withApi (contents : List TextUnit) : Machine :=
  { bare with
    env := ((Table.empty.insert "XDG_CONFIG_HOME" "/c").insert "XDG_STATE_HOME" "/s").insert
      "PATH" "/bin"
    files := ⟨[
      (["s", "desktop", "desktop.toml"].map TextUnit.ofText, .file contents false),
      ([TextUnit.ofText "s"], .directory),
      (["s", "desktop"].map TextUnit.ofText, .directory),
      ([TextUnit.ofText "api"], .directory),
      (["api", "Desktopfile"].map TextUnit.ofText, .file (TextUnit.ofText devDesktopfile) false),
      ([TextUnit.ofText "tmp"], .directory),
      ([TextUnit.ofText "bin"], .directory),
      (["bin", "bash"].map TextUnit.ofText, .file [] true)]⟩ }

section

variable (contents : List TextUnit) {store : Store} {text : String}

set_option maxRecDepth 10000 in
/-- The settings are the usual ones, and both files are where they are looked for. -/
theorem paths_withApi :
    (withApi contents).foundSettings = .ok Settings.defaults ∧
      (withApi contents).storeFileOf Settings.defaults =
        .ok (.ofText "/s/desktop/desktop.toml") ∧
      (withApi contents).files.inspect [] (.ofText "/s/desktop/desktop.toml") =
        .ok (["s", "desktop", "desktop.toml"].map TextUnit.ofText, .file contents false) ∧
      (withApi contents).files.inspect [] ((Path.ofText "/api").join desktopfileName) =
        .ok (["api", "Desktopfile"].map TextUnit.ofText,
          .file (TextUnit.ofText devDesktopfile) false) := by
  refine ⟨?_, ?_, ?_, ?_⟩ <;> cbv

set_option maxRecDepth 10000 in
/-- The store file can be written without making a directory. -/
theorem way_withApi :
    (withApi contents).files.makeDirectories [] (.ofText "/s/desktop") =
        (.ok (), (withApi contents).files) ∧
      (withApi contents).files.find .write [] (.ofText "/s/desktop/desktop.toml") =
        .ok (.occupied (["s", "desktop", "desktop.toml"].map TextUnit.ofText)
          (.file contents false)) := by
  refine ⟨?_, ?_⟩ <;> cbv

theorem environmentIn_withApi :
    (withApi contents).environmentIn (.ofText "/api") =
      .ok (some (.ofText "/api/Desktopfile", Table.empty.insert "dev" devConfiguration)) :=
  environmentIn_of_source (paths_withApi contents).2.2.2 (evaluate_dev _)

/-- The store is saved to the file, and nothing else changes. -/
theorem run_save_withApi {machine : Machine} (hsame : (withApi contents).SameFiles machine)
    (htext : store.text? = some text) :
    (store.save (.ofText "/s/desktop/desktop.toml") : StoreM Unit).run machine =
      (.ok (), { machine with files := (withApi (TextUnit.ofText text)).files }) := by
  obtain ⟨hmade, hfind⟩ := way_withApi contents
  have hparent : (Path.ofText "/s/desktop/desktop.toml").parent? = some (.ofText "/s/desktop") := by
    decide
  have hwrite : (withApi contents).files.writeText [] (.ofText "/s/desktop/desktop.toml") text =
      .ok (withApi (TextUnit.ofText text)).files :=
    Files.writeText_of_occupied hfind text
  have hway : machine.files.makeDirectories machine.directory (.ofText "/s/desktop") =
      (.ok (), (withApi contents).files) := by
    rw [hsame.files, hsame.directory]
    exact hmade
  apply run_save_of_way hparent hway htext
  rw [hsame.directory]
  exact hwrite

/-- A session starts with the store whose text the file holds. -/
theorem foundSession_withApi (h : store.text? = some text) :
    (withApi (TextUnit.ofText text)).foundSession =
      .ok ⟨Settings.defaults, store, .ofText "/s/desktop/desktop.toml"⟩ := by
  obtain ⟨hsettings, hfile, hinspect, -⟩ := paths_withApi (TextUnit.ofText text)
  obtain ⟨hcontains, hread⟩ := Files.readText_of_inspect hinspect
  rw [foundSession_eq_ok_iff]
  exact ⟨hsettings, hfile, storeAt_of_text hcontains hread (Store.ofText?_text h)⟩

end

def apiMachine : Machine := withApi (TextUnit.ofText apiStoreText)

def apiSession : Session := ⟨Settings.defaults, apiStore, .ofText "/s/desktop/desktop.toml"⟩

theorem text?_apiStore : apiStore.text? = some apiStoreText := by
  decide +kernel

theorem foundSession_apiMachine : apiMachine.foundSession = .ok apiSession :=
  foundSession_withApi text?_apiStore

/-- One variant can be prepared. -/
theorem prepared_apiMachine (variant : Option String) :
    apiSession.prepared apiMachine "api" variant =
      if apiSession.variantOr variant = "dev" then
        .ok ⟨"api", "dev", .ofText "/api", devConfiguration⟩
      else
        .error (.activation
          (.missingVariant (apiSession.variantOr variant) (.ofText "/api/Desktopfile"))) := by
  rw [Session.prepared_of_found _ (by rfl), activationIn, apiMachine, environmentIn_withApi]
  dsimp only
  rw [Table.get?_insert]
  by_cases hvariant : apiSession.variantOr variant = "dev"
  · rw [if_pos hvariant, if_pos hvariant, hvariant]
    rfl
  · rw [if_neg hvariant, if_neg hvariant]
    rfl

end Machine

/-- An undeclared variant is not started, and all files stay. -/
theorem run_leaves_files_undeclared :
    (Command.go "api" none).isReading = false ∧
      (((Command.go "api" none).run : CommandM Unit).run Machine.apiMachine).1 =
        .error (.activation (.missingVariant "default" (.ofText "/api/Desktopfile"))) ∧
      (((Command.go "api" none).run : CommandM Unit).run Machine.apiMachine).2.files =
        Machine.apiMachine.files := by
  have hfailure : (((Command.go "api" none).run : CommandM Unit).run Machine.apiMachine).1 =
      .error (.activation (.missingVariant "default" (.ofText "/api/Desktopfile"))) := by
    obtain ⟨logged, _, hrun⟩ :=
      Machine.apiSession.run_prepare_bind Machine.apiMachine "api" none
    rw [run_command, Machine.foundSession_apiMachine]
    dsimp only [Command.runIn, Session.go]
    rw [hrun, Machine.prepared_apiMachine]
    rfl
  exact ⟨rfl, hfailure, (run_leaves_files _ _ (.inr ⟨_, hfailure, rfl⟩)).1⟩

end Workspaces
