import Workspaces.Proofs.StoreRuns

/-!
# Tags and their history

What the store says about tags is what was done: a workspace has the tags that were put on
it, and the tags that may be put on one are those that were added.  Both are read off the
operations that succeeded, whatever failed between them.  The ways to ask for tags agree
because a name stands for one workspace and every tag on a workspace is listed.
-/

namespace Workspaces

/-! ## Histories -/

/-- Whether an operation puts another store in the place of the one that is held. -/
def StoreOperation.Replaces : StoreOperation → Prop
  | .load _ => True
  | _ => False

namespace StoreRun

/-- An operation succeeds and makes a store of the one that is held. -/
def Performs (run : StoreRun) (operation : StoreOperation) (store : Store) : Prop :=
  ∃ machine, run.perform operation = ((.ok (), store), machine)

/-- The run after operations, one after the other. -/
def afterAll (run : StoreRun) (operations : List StoreOperation) : StoreRun :=
  operations.foldl next run

/-- An operation is among others that are done in a run, and it succeeds in its place. -/
def Achieves (run : StoreRun) (operations : List StoreOperation) (operation : StoreOperation) :
    Prop :=
  ∃ before later store, operations = before ++ operation :: later ∧
    (run.afterAll before).Performs operation store

variable {run : StoreRun} {operation target : StoreOperation} {operations : List StoreOperation}

theorem performs_or_fails (run : StoreRun) (operation : StoreOperation) :
    run.Performs operation (run.next operation).store ∨
      (∀ store, ¬ run.Performs operation store) ∧ (run.next operation).store = run.store := by
  rcases hperform : run.perform operation with ⟨⟨error | _, store⟩, machine⟩
  · have hanswer : run.answer operation = .error error := by
      rw [answer, hperform]
    refine .inr ⟨?_, store_next_of_error hanswer⟩
    rintro other ⟨_, hother⟩
    rw [hperform] at hother
    cases hother
  · refine .inl ⟨machine, ?_⟩
    rw [store_next, hperform]

theorem achieves_nil : ¬ run.Achieves [] target := by
  rintro ⟨before, later, _, hoperations, _⟩
  exact List.append_ne_nil_of_right_ne_nil before (List.cons_ne_nil target later) hoperations.symm

theorem achieves_cons : run.Achieves (operation :: operations) target ↔
    (operation = target ∧ ∃ store, run.Performs operation store) ∨
      (run.next operation).Achieves operations target := by
  constructor
  · rintro ⟨_ | ⟨first, before⟩, later, store, hoperations, hperforms⟩
    · obtain ⟨rfl, rfl⟩ := List.cons.inj hoperations
      exact .inl ⟨rfl, store, hperforms⟩
    · obtain ⟨rfl, rfl⟩ := List.cons.inj hoperations
      exact .inr ⟨before, later, store, rfl, hperforms⟩
  · rintro (⟨rfl, store, hperforms⟩ | ⟨before, later, store, rfl, hperforms⟩)
    · exact ⟨[], operations, store, rfl, hperforms⟩
    · exact ⟨operation :: before, later, store, rfl, hperforms⟩

/-- What every success keeps holds however a run goes on. -/
theorem afterAll_invariant {P : Store → Prop}
    (hstep : ∀ (run : StoreRun) operation store, ¬ operation.Replaces →
      run.Performs operation store → P run.store → P store)
    (hoperations : ∀ operation ∈ operations, ¬ operation.Replaces) (h : P run.store) :
    P (run.afterAll operations).store := by
  induction operations generalizing run with
  | nil =>
      exact h
  | cons operation operations ih =>
      obtain ⟨hoperation, hoperations⟩ := List.forall_mem_cons.mp hoperations
      refine ih hoperations ?_
      rcases run.performs_or_fails operation with hperforms | ⟨_, hstore⟩
      · exact hstep run operation _ hoperation hperforms h
      · rwa [hstore]

/-- What the success of one operation alone brings about is a trace of it. -/
theorem afterAll_iff_achieves {P : Store → Prop}
    (hstep : ∀ (run : StoreRun) operation store, ¬ operation.Replaces →
      run.Performs operation store → (P store ↔ P run.store ∨ operation = target))
    (hoperations : ∀ operation ∈ operations, ¬ operation.Replaces) :
    P (run.afterAll operations).store ↔ P run.store ∨ run.Achieves operations target := by
  induction operations generalizing run with
  | nil =>
      exact (or_iff_left achieves_nil).symm
  | cons operation operations ih =>
      obtain ⟨hoperation, hoperations⟩ := List.forall_mem_cons.mp hoperations
      have hnext : P (run.next operation).store ↔
          P run.store ∨ operation = target ∧ ∃ store, run.Performs operation store := by
        rcases run.performs_or_fails operation with hperforms | ⟨hfails, hstore⟩
        · rw [hstep run operation _ hoperation hperforms,
            and_iff_left (⟨_, hperforms⟩ : ∃ store, run.Performs operation store)]
        · rw [hstore]
          exact (or_iff_left fun h => h.2.elim hfails).symm
      rw [achieves_cons, ← or_assoc, ← hnext]
      exact ih hoperations

end StoreRun

/-! ## What each operation does to tags -/

/-- The workspace of a name has a tag. -/
def Store.Carries (store : Store) (name tag : String) : Prop :=
  ∃ tags, store.tagsOf name = .ok tags ∧ tag ∈ tags

namespace Store

variable {store after : Store} {name other tag added : String} {now : Instant}
  {change : Workspace → Workspace} {workspaces changed : List Workspace} {workspace : Workspace}

theorem carries_iff :
    store.Carries name tag ↔ ∃ workspace, store.find? name = some workspace ∧
      tag ∈ workspace.tags := by
  rw [Carries, tagsOf]
  cases store.find? name with
  | none =>
      simp
  | some workspace =>
      simp

theorem not_carries_empty : ¬ Store.empty.Carries name tag := by
  rintro ⟨_, ⟨⟩, _⟩

/-- What a name stands for after the workspace of a name was changed. -/
theorem find?_updateFirst (h : updateFirst name change workspaces = some changed)
    (hname : ∀ workspace, (change workspace).name = workspace.name) (other : String) :
    (changed.find? fun workspace => workspace.name = other) =
      (workspaces.find? fun workspace => workspace.name = other).map
        fun workspace => if other = name then change workspace else workspace := by
  induction workspaces generalizing changed with
  | nil =>
      cases h
  | cons first workspaces ih =>
      rw [updateFirst] at h
      split at h
      · rename_i hfirst
        cases h
        by_cases hother : first.name = other
        · simp [hname, hother, hother.symm.trans hfirst]
        · have hne : other ≠ name := fun heq => hother (hfirst.trans heq.symm)
          simp [hname, hother, hne]
      · rename_i hfirst
        obtain ⟨rest, hrest, rfl⟩ := Option.map_eq_some_iff.mp h
        by_cases hother : first.name = other
        · have hne : other ≠ name := fun heq => hfirst (hother.trans heq)
          simp [hother, hne]
        · simp [hother, ih hrest]

theorem exists_found_of_updateFirst (h : updateFirst name change workspaces = some changed) :
    ∃ workspace, (workspaces.find? fun workspace => workspace.name = name) = some workspace := by
  induction workspaces generalizing changed with
  | nil =>
      cases h
  | cons first workspaces ih =>
      rw [updateFirst] at h
      split at h
      · rename_i hfirst
        exact ⟨first, List.find?_cons_of_pos (by simpa using hfirst)⟩
      · rename_i hfirst
        obtain ⟨rest, hrest, _⟩ := Option.map_eq_some_iff.mp h
        rw [List.find?_cons_of_neg (by simpa using hfirst)]
        exact ih hrest

theorem mem_tags_withTag : tag ∈ (withTag added now workspace).tags ↔
    tag ∈ workspace.tags ∨ added = tag := by
  rw [withTag, Names.mem_insert, or_comm, eq_comm]

theorem carries_update (h : store.update name change = (.ok (), after))
    (hname : ∀ workspace, (change workspace).name = workspace.name) :
    after.Carries other tag ↔ ∃ workspace, store.find? other = some workspace ∧
      tag ∈ (if other = name then change workspace else workspace).tags := by
  obtain ⟨changed, hchanged, rfl⟩ := update_eq_ok h
  rw [carries_iff, find?, find?_updateFirst hchanged hname]
  simp only [Option.map_eq_some_iff]
  constructor
  · rintro ⟨_, ⟨workspace, hfind, rfl⟩, htag⟩
    exact ⟨workspace, hfind, htag⟩
  · rintro ⟨workspace, hfind, htag⟩
    exact ⟨_, ⟨workspace, hfind, rfl⟩, htag⟩

theorem carries_touch (h : store.touch now name = (.ok (), after)) :
    after.Carries other tag ↔ store.Carries other tag := by
  rw [carries_update h fun _ => rfl, carries_iff]
  simp only [apply_ite Workspace.tags, ite_self]

/-- Putting a tag on a workspace adds just that tag to just that workspace. -/
theorem carries_tagWorkspace (h : store.tagWorkspace now name added = (.ok (), after)) :
    after.Carries other tag ↔ store.Carries other tag ∨ name = other ∧ added = tag := by
  rw [tagWorkspace] at h
  split at h
  · rw [carries_update h fun _ => rfl, carries_iff]
    by_cases hother : other = name
    · subst hother
      obtain ⟨changed, hchanged, _⟩ := update_eq_ok h
      obtain ⟨found, hfound⟩ := exists_found_of_updateFirst hchanged
      have hfind : store.find? other = some found := hfound
      simp only [hfind, if_true, mem_tags_withTag, Option.some.injEq, exists_eq_left', true_and]
    · simp only [if_neg hother, Ne.symm hother, false_and, or_false]
  · cases h

theorem carries_addWorkspace {description : String} {path : Path} :
    (store.addWorkspace now name description path).2.Carries other tag ↔
      store.Carries other tag := by
  rcases store.addWorkspace_cases now name description path with herror | ⟨_, hok⟩
  · rw [herror]
  rw [hok, carries_iff, carries_iff, find?, List.find?_append, ← find?]
  cases store.find? other with
  | some workspace =>
      rfl
  | none =>
      -- What was just added has no tags, so it counts as little as nothing does.
      by_cases hother : name = other
      · simp [hother]
      · simp [hother]

theorem mem_tags_addTag : tag ∈ (store.addTag added).2.tags ↔ tag ∈ store.tags ∨ added = tag := by
  rw [addTag, Names.mem_insert, or_comm, eq_comm]

theorem tags_update (h : store.update name change = (.ok (), after)) :
    after.tags = store.tags := by
  obtain ⟨_, _, rfl⟩ := update_eq_ok h
  rfl

theorem tags_tagWorkspace (h : store.tagWorkspace now name added = (.ok (), after)) :
    after.tags = store.tags := by
  rw [tagWorkspace] at h
  split at h
  · exact tags_update h
  · cases h

theorem tags_addWorkspace {description : String} {path : Path} :
    (store.addWorkspace now name description path).2.tags = store.tags := by
  rcases store.addWorkspace_cases now name description path with herror | ⟨_, hok⟩
  · rw [herror]
  · rw [hok]

end Store

/-! ## What a success does to tags -/

namespace StoreRun

variable {run : StoreRun} {operation : StoreOperation} {store : Store} {name tag : String}

/-- The store that an operation makes when it succeeds on a run. -/
theorem performs_cases (hoperation : ¬ operation.Replaces) (h : run.Performs operation store) :
    match operation with
    | .addWorkspace name description path =>
      (run.store.addWorkspace (run.machine.clock run.machine.readings) name description path).2 =
        store
    | .touch name => run.store.touch (run.machine.clock run.machine.readings) name = (.ok (), store)
    | .addTag tag => (run.store.addTag tag).2 = store
    | .tagWorkspace name tag =>
      run.store.tagWorkspace (run.machine.clock run.machine.readings) name tag = (.ok (), store)
    | .save _ => run.store = store
    | .load _ => False := by
  obtain ⟨machine, hperform⟩ := h
  have hdone := (Prod.mk.inj hperform).1
  cases operation with
  | addWorkspace name description path => exact (Prod.mk.inj hdone).2
  | touch name => exact hdone
  | addTag tag => exact (Prod.mk.inj hdone).2
  | tagWorkspace name tag => exact hdone
  | save path =>
      rcases run.perform_save path with ⟨_, hsave⟩ | ⟨_, _, _, _, hsave⟩ <;>
        exact (congrArg (·.1.2) hsave).symm.trans (congrArg (·.1.2) hperform)
  | load path => exact hoperation trivial

theorem carries_of_performs (hoperation : ¬ operation.Replaces)
    (h : run.Performs operation store) :
    store.Carries name tag ↔
      run.store.Carries name tag ∨ operation = .tagWorkspace name tag := by
  have hcases := performs_cases hoperation h
  cases operation with
  | addWorkspace other description path => simp [← hcases, Store.carries_addWorkspace]
  | touch other => simpa using Store.carries_touch hcases
  | addTag added =>
      rw [← hcases]
      simp [Store.Carries, Store.addTag, Store.tagsOf, Store.find?]
  | tagWorkspace other added => simpa using Store.carries_tagWorkspace hcases
  | save path => simp [← hcases]
  | load path => cases hcases

theorem mem_tags_of_performs (hoperation : ¬ operation.Replaces)
    (h : run.Performs operation store) :
    tag ∈ store.tags ↔ tag ∈ run.store.tags ∨ operation = .addTag tag := by
  have hcases := performs_cases hoperation h
  cases operation with
  | addWorkspace other description path => simp [← hcases, Store.tags_addWorkspace]
  | touch other => simp [Store.tags_update hcases]
  | addTag added => simp [← hcases, Store.mem_tags_addTag]
  | tagWorkspace other added => simp [Store.tags_tagWorkspace hcases]
  | save path => simp [← hcases]
  | load path => cases hcases

theorem isWellFormed_of_performs (hoperation : ¬ operation.Replaces)
    (h : run.Performs operation store) (hstore : run.store.IsWellFormed) : store.IsWellFormed := by
  have hcases := performs_cases hoperation h
  cases operation with
  | addWorkspace other description path => exact hcases ▸ hstore.addWorkspace _ _ _ _
  | touch other =>
      have hafter := hstore.touch (run.machine.clock run.machine.readings) other
      rwa [show run.store.touch _ other = _ from hcases] at hafter
  | addTag added => exact hcases ▸ hstore.addTag _
  | tagWorkspace other added =>
      have hafter := hstore.tagWorkspace (run.machine.clock run.machine.readings) other added
      rwa [show run.store.tagWorkspace _ other added = _ from hcases] at hafter
  | save path => exact hcases ▸ hstore
  | load path => cases hcases

end StoreRun

/-! ## The queries agree -/

namespace Store

variable {store : Store} {tag : String} {workspace : Workspace}

theorem perm_byRecency (store : Store) : store.byRecency.Perm store.workspaces :=
  List.mergeSort_perm store.workspaces isRecentAs

theorem tagUsage_eq (store : Store) (tag : String) :
    store.tagUsage tag =
      (store.byRecency.filter fun workspace => tag ∈ workspace.tags).length := by
  rw [tagUsage, ← List.countP_eq_length_filter]
  exact (store.perm_byRecency.countP_eq _).symm

namespace IsWellFormed

/-- A workspace is what its name stands for. -/
theorem find?_name (hstore : store.IsWellFormed) (hworkspace : workspace ∈ store.workspaces) :
    store.find? workspace.name = some workspace := by
  obtain ⟨found, hfound⟩ : ∃ found, store.find? workspace.name = some found := by
    rw [← Option.isSome_iff_exists, find?, List.find?_isSome]
    exact ⟨workspace, hworkspace, by simp⟩
  have honly := (nodup_names_iff store.workspaces).mp hstore.names_distinct _ _ hfound
  have hmem : workspace ∈ store.workspaces.filter fun other => other.name = workspace.name :=
    List.mem_filter.mpr ⟨hworkspace, by simp⟩
  rw [honly] at hmem
  rw [hfound, List.mem_singleton.mp hmem]

theorem carries_name (hstore : store.IsWellFormed) (hworkspace : workspace ∈ store.workspaces) :
    store.Carries workspace.name tag ↔ tag ∈ workspace.tags := by
  rw [carries_iff, hstore.find?_name hworkspace]
  simp

theorem nodup_names_byRecency (hstore : store.IsWellFormed) :
    (store.byRecency.map Workspace.name).Nodup :=
  (store.perm_byRecency.map Workspace.name).nodup_iff.mpr hstore.names_distinct

theorem tagUsage_of_not_mem (hstore : store.IsWellFormed) (htag : tag ∉ store.tags) :
    store.tagUsage tag = 0 := by
  rw [tagUsage, List.countP_eq_zero]
  intro workspace hworkspace
  simpa using fun hcarried => htag (hstore.tags_listed workspace hworkspace tag hcarried)

end IsWellFormed

end Store

namespace StoreRun

/-- However a run goes that begins with the empty store and loads no other: the tags of a
workspace are those that were put on it, and the listed tags are those that were added.
For a listed tag the workspaces with it are just those that the tags of their names name,
in the order of their use, and they are counted right.  For any other tag there are none. -/
theorem tags_from_history (machine : Machine) (operations : List StoreOperation)
    (hoperations : ∀ operation ∈ operations, ¬ operation.Replaces) :
    let run := (start machine).afterAll operations
    (∀ name tag, (∃ tags, run.store.tagsOf name = .ok tags ∧ tag ∈ tags) ↔
      (start machine).Achieves operations (.tagWorkspace name tag)) ∧
      run.store.tags.toList.Pairwise (· < ·) ∧
      (∀ tag, tag ∈ run.store.tags.toList ↔
        (start machine).Achieves operations (.addTag tag)) ∧
      (∀ tag ∈ run.store.tags, ∃ tagged, run.store.workspacesWithTag tag = .ok tagged ∧
        tagged.Sublist run.store.byRecency ∧ (tagged.map Workspace.name).Nodup ∧
        (∀ workspace, workspace ∈ tagged ↔ workspace ∈ run.store.byRecency ∧
          ∃ tags, run.store.tagsOf workspace.name = .ok tags ∧ tag ∈ tags) ∧
        run.store.tagUsage tag = tagged.length) ∧
      ∀ tag, tag ∉ run.store.tags →
        run.store.workspacesWithTag tag = .error (.unknownTag tag) ∧
          run.store.tagUsage tag = 0 := by
  intro run
  have hstore : run.store.IsWellFormed :=
    afterAll_invariant (fun _ _ _ => isWellFormed_of_performs) hoperations .empty
  refine ⟨?_, run.store.tags.increasing, ?_, ?_, ?_⟩
  · intro name tag
    have hcarries := @afterAll_iff_achieves (start machine) _ _
      (fun store => store.Carries name tag) (fun _ _ _ => carries_of_performs) hoperations
    exact hcarries.trans (or_iff_right Store.not_carries_empty)
  · intro tag
    have hlisted := @afterAll_iff_achieves (start machine) _ _
      (fun store => tag ∈ store.tags) (fun _ _ _ => mem_tags_of_performs) hoperations
    exact hlisted.trans (or_iff_right (Names.not_mem_empty tag))
  · intro tag htag
    refine ⟨_, if_pos htag, List.filter_sublist, ?_, ?_, run.store.tagUsage_eq tag⟩
    · exact (List.filter_sublist.map _).nodup hstore.nodup_names_byRecency
    · intro workspace
      rw [List.mem_filter, decide_eq_true_iff]
      apply and_congr_right
      intro hworkspace
      exact (hstore.carries_name (run.store.perm_byRecency.mem_iff.mp hworkspace)).symm
  · intro tag htag
    exact ⟨if_neg htag, hstore.tagUsage_of_not_mem htag⟩

/-- Operations of which the first attempt to tag fails, for want of the tag. -/
def taggingOperations : List StoreOperation :=
  [.addWorkspace "api" "" (.ofText "/api"), .tagWorkspace "api" "rust", .addTag "rust",
    .addWorkspace "web" "" (.ofText "/web"), .tagWorkspace "api" "rust", .touch "web"]

theorem tags_from_history_tagging :
    (start tickingMachine).Achieves taggingOperations (.tagWorkspace "api" "rust") ∧
      ¬ (start tickingMachine).Achieves taggingOperations (.tagWorkspace "web" "rust") ∧
      ((start tickingMachine).afterAll taggingOperations).store.tagUsage "rust" = 1 ∧
      ((start tickingMachine).afterAll taggingOperations).store.workspacesWithTag "go" =
        .error (.unknownTag "go") := by
  obtain ⟨htags, _, _, _, hunknown⟩ := tags_from_history tickingMachine taggingOperations
    (by simp [taggingOperations, StoreOperation.Replaces])
  have hapi : ((start tickingMachine).afterAll taggingOperations).store.tagsOf "api" =
      .ok (Names.empty.insert "rust") := by rfl
  have hweb : ((start tickingMachine).afterAll taggingOperations).store.tagsOf "web" =
      .ok .empty := by rfl
  refine ⟨(htags "api" "rust").mp ⟨_, hapi, by decide⟩, ?_, by rfl,
    (hunknown "go" (by decide)).1⟩
  intro hachieves
  obtain ⟨tags, hfound, htag⟩ := (htags "web" "rust").mpr hachieves
  rw [hweb] at hfound
  cases hfound
  exact Names.not_mem_empty "rust" htag

end StoreRun

end Workspaces
