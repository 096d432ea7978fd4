import Workspaces.Proofs.PlainWays
import Workspaces.Proofs.UnchangedFiles

/-!
# What saving does to the files

Saving makes the directories on the way to a path, writes the store down as a text and puts
the text where the path leads.  Each of these may fail, and whatever fails comes before a
file is opened for writing.  So a save that fails has at most made directories, which hold
nothing else, and a save that succeeds has changed one file.
-/

namespace Workspaces

/-! ## Directories on a way -/

namespace Files

variable {files before middle after : Files} {directory location place : Location}
  {absolute : Bool} {names further : List Path.Name} {path : Path}

/-- What was there is unchanged.  What is new are directories that a path along the first of
the names leads to, and on a tree there is nothing else in them. -/
structure AddsWay (before after : Files) (directory : Location) (absolute : Bool)
    (names : List Path.Name) : Prop where
  kept : before.Extends after
  made : ∀ place node, before.get? place = none → after.get? place = some node →
    node = .directory ∧ ∃ first, first <+: names ∧
      after.inspect directory (.ofNames absolute first) = .ok (place, .directory)
  empty : before.IsTree → ∀ place below node, before.get? place = none →
    after.get? (place ++ below) = some node →
      before.get? (place ++ below) = none ∧ node = .directory

theorem AddsWay.of_made (hkept : before.Extends after)
    (hmade : ∀ place node, before.get? place = none → after.get? place = some node →
      node = .directory ∧ ∃ first, first <+: names ∧
        after.inspect directory (.ofNames absolute first) = .ok (place, .directory)) :
    before.AddsWay after directory absolute names := by
  refine ⟨hkept, hmade, ?_⟩
  intro htree place below node hnone hnode
  have hbelow := htree.get?_append hnone below
  exact ⟨hbelow, (hmade _ node hbelow hnode).1⟩

theorem AddsWay.refl (files : Files) (directory : Location) (absolute : Bool)
    (names : List Path.Name) : files.AddsWay files directory absolute names := by
  apply AddsWay.of_made (.refl files)
  intro place node hnone hnode
  rw [hnone] at hnode
  cases hnode

theorem AddsWay.mono (h : before.AddsWay after directory absolute names)
    (hnames : names <+: further) : before.AddsWay after directory absolute further := by
  apply AddsWay.of_made h.kept
  intro place node hnone hnode
  obtain ⟨hdirectory, first, hfirst, hinspect⟩ := h.made place node hnone hnode
  exact ⟨hdirectory, first, hfirst.trans hnames, hinspect⟩

/-- One more directory at the end of the way. -/
theorem AddsWay.create (h : before.AddsWay middle directory absolute names)
    (hcreate : middle.create directory (.ofNames absolute names) .directory = .ok after) :
    before.AddsWay after directory absolute names := by
  have hextends := extends_create hcreate
  apply AddsWay.of_made (h.kept.trans hextends)
  intro place node hnone hnode
  obtain ⟨new, hfree, rfl, hinspect⟩ := create_eq_ok hcreate (by rintro target ⟨⟩)
  have hne : new ≠ [] := by
    rintro rfl
    cases hfree
  rw [get?_set middle _ _ hne] at hnode
  by_cases hplace : place = new
  · rw [if_pos hplace] at hnode
    cases hnode
    exact ⟨rfl, names, List.prefix_rfl, hplace ▸ hinspect⟩
  · rw [if_neg hplace] at hnode
    obtain ⟨hdirectory, first, hfirst, hearlier⟩ := h.made place node hnone hnode
    exact ⟨hdirectory, first, hfirst, inspect_of_extends hearlier hextends⟩

/-- However far the way is made, nothing but the way is made. -/
theorem addsWay_makeTree (files : Files) (directory : Location) (absolute : Bool)
    (names : List Path.Name) :
    files.AddsWay (files.makeTree directory absolute names).2 directory absolute names := by
  fun_induction files.makeTree directory absolute names with
  | case1 => exact .refl files directory absolute _
  | case2 names _ path made hcreate => exact (AddsWay.refl files _ _ _).create hcreate
  | case3 => exact .refl files directory absolute _
  | case4 first others fault made hmade _ path _ ih =>
      rw [hmade] at ih
      exact ih.mono (List.dropLast_prefix _)
  | case5 first others made hmade done _ path _ hcreate ih =>
      rw [hmade] at ih
      exact (ih.mono (List.dropLast_prefix _)).create hcreate
  | case6 first others made hmade fault _ path _ _ _ ih =>
      rw [hmade] at ih
      exact ih.mono (List.dropLast_prefix _)
  | case7 first others made hmade fault _ path _ _ _ ih =>
      rw [hmade] at ih
      exact ih.mono (List.dropLast_prefix _)
  | case8 => exact .refl files directory absolute _
  | case9 => exact .refl files directory absolute _

end Files

/-- The directories on the way to a path, which all its names but the last one go through, are
all that may be new. -/
def Machine.AddsWayTo (machine : Machine) (path : Path) (files : Files) : Prop :=
  machine.files.AddsWay files machine.directory path.isAbsolute path.names.dropLast

theorem Machine.addsWayTo_withWay (machine : Machine) (path : Path) :
    machine.AddsWayTo path (machine.withWay path).files := by
  by_cases hnames : path.names = []
  · rw [withWay, Path.parent?, if_pos hnames]
    exact .refl _ _ _ _
  · rw [withWay_of_names hnames]
    exact Files.addsWay_makeTree _ _ _ _

/-! ## Stores that cannot be written down -/

theorem exists_of_mapM_eq_none {α β : Type} {f : α → Option β} {items : List α}
    (h : items.mapM f = none) : ∃ item ∈ items, f item = none := by
  induction items with
  | nil => cases h
  | cons item items ih =>
      cases hitem : f item with
      | none => exact ⟨item, List.mem_cons_self, hitem⟩
      | some value =>
          cases hitems : items.mapM f with
          | none =>
              obtain ⟨other, hother, hnone⟩ := ih hitems
              exact ⟨other, List.mem_cons_of_mem item hother, hnone⟩
          | some values =>
              rw [List.mapM_cons, hitem, hitems] at h
              cases h

/-- Only a path that is no text keeps a store from being written down. -/
theorem Store.exists_path_of_text?_eq_none {store : Store} (h : store.text? = none) :
    ∃ workspace ∈ store.workspaces, workspace.path.text? = none := by
  rw [Store.text?, Option.map_eq_none_iff, Store.chars?, Option.map_eq_none_iff] at h
  obtain ⟨workspace, hworkspace, hlines⟩ := exists_of_mapM_eq_none h
  rw [Workspace.lines?, Option.map_eq_none_iff] at hlines
  exact ⟨workspace, hworkspace, hlines⟩

/-! ## How saving ends -/

/-- What saving a store answers, and the machine that it leaves. -/
inductive Store.EndsSaving (store : Store) (path : Path) (machine : Machine) :
    Except StoreError Unit → Machine → Prop
  | notMade {parent : Path} {fault : Fault} {files : Files}
      (hparent : path.parent? = some parent)
      (hfault : machine.files.makeDirectories machine.directory parent = (.error fault, files))
      (hway : machine.AddsWayTo path files) :
      EndsSaving store path machine (.error (.unwritable path fault))
        { machine with files := files }
  | notText {files : Files}
      (hpath : ∃ workspace ∈ store.workspaces, workspace.path.text? = none)
      (hway : machine.AddsWayTo path files) :
      EndsSaving store path machine (.error .pathNotText) { machine with files := files }
  | notOpened {text : String} {fault : Fault} {files : Files} (htext : store.text? = some text)
      (hfault : files.writeText machine.directory path text = .error fault)
      (hway : machine.AddsWayTo path files) :
      EndsSaving store path machine (.error (.unwritable path fault))
        { machine with files := files }
  | saved {text : String} {place : Location} {executable : Bool} {way files : Files}
      (htext : store.text? = some text) (hway : machine.AddsWayTo path way)
      (hplace : way.TakesFile place)
      (hfile : files.inspect machine.directory path =
        .ok (place, .file (TextUnit.ofText text) executable))
      (hothers : ∀ other, other ≠ place → files.get? other = way.get? other) :
      EndsSaving store path machine (.ok ()) { machine with files := files }

/-- Whatever saving answers, no file is changed before the text is written. -/
theorem Machine.endsSaving_save (store : Store) (path : Path) (machine : Machine) :
    store.EndsSaving path machine ((store.save path : StoreM Unit).run machine).1
      ((store.save path : StoreM Unit).run machine).2 := by
  have hway := machine.addsWayTo_withWay path
  have hrun := saveRun_save store path machine
  generalize (store.save path : StoreM Unit).run machine = result at hrun ⊢
  cases hrun with
  | notMade hparent hfault =>
      rw [withWay_eq]
      exact .notMade hparent hfault hway
  | notText htext =>
      rw [withWay_eq]
      exact .notText (Store.exists_path_of_text?_eq_none htext) hway
  | notOpened htext hfault =>
      rw [withWay_eq]
      exact .notOpened htext hfault hway
  | saved htext hwrite =>
      rw [withWay_eq]
      obtain ⟨place, executable, htakes, rfl, hinspect⟩ := Files.write_eq_ok hwrite
      apply Store.EndsSaving.saved htext hway htakes hinspect
      intro other hother
      rw [Files.get?_set _ _ _ htakes.ne_root, if_neg hother]

/-- Another store is saved over the one that is there, and the Desktopfile stays. -/
theorem endsSaving_save_intricate :
    ∃ text after,
      Store.intricate.text? = some text ∧
        (Store.intricate.save (.ofText "/s/desktop/desktop.toml") : StoreM Unit).run
          Machine.apiMachine = (.ok (), after) ∧
        after.files.readText [] (.ofText "/s/desktop/desktop.toml") = .ok text ∧
        after.files.get? (["api", "Desktopfile"].map TextUnit.ofText) =
          some (.file (TextUnit.ofText devDesktopfile) false) := by
  have htext : ∃ text, Store.intricate.text? = some text := ⟨_, rfl⟩
  obtain ⟨text, htext⟩ := htext
  obtain ⟨after, hsave, hfiles⟩ : ∃ after,
      (Store.intricate.save (.ofText "/s/desktop/desktop.toml") : StoreM Unit).run
          Machine.apiMachine = (.ok (), after) ∧
        after.files = (Machine.withApi (TextUnit.ofText text)).files :=
    ⟨_, Machine.run_save_withApi _ (refl Machine.apiMachine) htext, rfl⟩
  have hends := Machine.endsSaving_save Store.intricate (.ofText "/s/desktop/desktop.toml")
    Machine.apiMachine
  obtain ⟨-, -, hinspect, -⟩ := Machine.paths_withApi (TextUnit.ofText text)
  rw [← hfiles] at hinspect
  refine ⟨text, after, htext, hsave, (Files.readText_of_inspect hinspect).2, ?_⟩
  rw [hsave] at hends
  cases hends with
  | saved _ hway _ hfile hothers =>
      obtain ⟨rfl, -⟩ := Prod.mk.inj (Except.ok.inj (hinspect.symm.trans hfile))
      rw [hothers _ (by decide)]
      exact hway.kept _ _ rfl

end Workspaces
