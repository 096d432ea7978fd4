import Workspaces.Store

/-!
# Well-formed stores

A store is well-formed if a name stands for one workspace at most and no workspace
has a tag that the store does not list.  It is dated by a time if no workspace was
modified or used before it was created, and nothing happened after that time.
The store that an operation leaves has both again, whether it succeeds or fails.  Beyond
that, one that fails leaves the store as it was; of adding a tag that is there this is no
matter of course, since the tag is inserted first.
-/

namespace Workspaces

structure Store.IsWellFormed (store : Store) : Prop where
  names_distinct : (store.workspaces.map Workspace.name).Nodup
  tags_listed : ∀ workspace ∈ store.workspaces, ∀ tag ∈ workspace.tags, tag ∈ store.tags

structure Workspace.IsDatedBy (workspace : Workspace) (now : Instant) : Prop where
  created_le_modified : workspace.createdAt ≤ workspace.modifiedAt
  created_le_used : workspace.createdAt ≤ workspace.lastUsedAt
  modified_le : workspace.modifiedAt ≤ now
  used_le : workspace.lastUsedAt ≤ now

def Store.IsDatedBy (store : Store) (now : Instant) : Prop :=
  ∀ workspace ∈ store.workspaces, workspace.IsDatedBy now

variable {name tag description : String} {path : Path} {change : Workspace → Workspace}
  {workspaces changed : List Workspace} {workspace : Workspace} {store after : Store}
  {now later : Instant}

/-! ## What a name stands for -/

/-- Names are distinct just if every name stands for the only workspace that has it. -/
theorem nodup_names_iff (workspaces : List Workspace) :
    (workspaces.map Workspace.name).Nodup ↔
      ∀ name workspace, (workspaces.find? fun other => other.name = name) = some workspace →
        (workspaces.filter fun other => other.name = name) = [workspace] := by
  induction workspaces with
  | nil =>
      simp
  | cons first workspaces ih =>
      rw [List.map_cons, List.nodup_cons, ih]
      constructor
      · rintro ⟨hfirst, hothers⟩ name workspace hfind
        by_cases hname : first.name = name
        · have hnone : (workspaces.filter fun other => other.name = name) = [] := by
            rw [List.filter_eq_nil_iff]
            intro other hother heq
            exact hfirst (hname ▸ of_decide_eq_true heq ▸ List.mem_map_of_mem hother)
          rw [List.find?_cons_of_pos (by simpa using hname)] at hfind
          rw [List.filter_cons_of_pos (by simpa using hname), hnone, Option.some.inj hfind]
        · rw [List.find?_cons_of_neg (by simpa using hname)] at hfind
          rw [List.filter_cons_of_neg (by simpa using hname)]
          exact hothers name workspace hfind
      · intro honly
        have hfirst : first.name ∉ workspaces.map Workspace.name := by
          intro hmem
          obtain ⟨other, hother, hname⟩ := List.mem_map.mp hmem
          have hfilter := honly first.name first (List.find?_cons_of_pos (by simp))
          rw [List.filter_cons_of_pos (by simp)] at hfilter
          have hnone := List.filter_eq_nil_iff.mp (List.cons.inj hfilter).2 other hother
          exact hnone (by simpa using hname)
        refine ⟨hfirst, ?_⟩
        intro name workspace hfind
        have hname : first.name ≠ name := by
          rintro rfl
          exact hfirst (List.mem_map.mpr
            ⟨workspace, List.mem_of_find?_eq_some hfind, by simpa using List.find?_some hfind⟩)
        have hfilter := honly name workspace
          ((List.find?_cons_of_neg (by simpa using hname)).trans hfind)
        rwa [List.filter_cons_of_neg (by simpa using hname)] at hfilter

/-! ## Changing one workspace -/

theorem map_name_updateFirst (h : updateFirst name change workspaces = some changed)
    (hname : ∀ workspace, (change workspace).name = workspace.name) :
    changed.map Workspace.name = workspaces.map Workspace.name := by
  induction workspaces generalizing changed with
  | nil =>
      cases h
  | cons workspace workspaces ih =>
      rw [updateFirst] at h
      split at h
      · cases h
        rw [List.map_cons, List.map_cons, hname]
      · obtain ⟨others, hothers, rfl⟩ := Option.map_eq_some_iff.mp h
        rw [List.map_cons, List.map_cons, ih hothers]

theorem forall_mem_updateFirst {P : Workspace → Prop}
    (h : updateFirst name change workspaces = some changed)
    (hchange : ∀ workspace, P workspace → P (change workspace))
    (hall : ∀ workspace ∈ workspaces, P workspace) : ∀ workspace ∈ changed, P workspace := by
  induction workspaces generalizing changed with
  | nil =>
      cases h
  | cons workspace workspaces ih =>
      obtain ⟨hworkspace, hothers⟩ := List.forall_mem_cons.mp hall
      rw [updateFirst] at h
      split at h
      · cases h
        exact List.forall_mem_cons.mpr ⟨hchange workspace hworkspace, hothers⟩
      · obtain ⟨rest, hrest, rfl⟩ := Option.map_eq_some_iff.mp h
        exact List.forall_mem_cons.mpr ⟨hworkspace, ih hrest hothers⟩

namespace Store

theorem update_cases (store : Store) (name : String) (change : Workspace → Workspace) :
    store.update name change = (.error (.unknownWorkspace name), store) ∨
      ∃ changed, updateFirst name change store.workspaces = some changed ∧
        store.update name change = (.ok (), { store with workspaces := changed }) := by
  rw [update]
  cases updateFirst name change store.workspaces with
  | none => exact .inl rfl
  | some changed => exact .inr ⟨changed, rfl, rfl⟩

theorem update_eq_ok (h : store.update name change = (.ok (), after)) :
    ∃ changed, updateFirst name change store.workspaces = some changed ∧
      after = { store with workspaces := changed } := by
  rcases store.update_cases name change with herror | ⟨changed, hchanged, hok⟩
  · rw [herror] at h
    cases h
  · rw [hok] at h
    exact ⟨changed, hchanged, (Prod.mk.inj h).2.symm⟩

theorem addWorkspace_cases (store : Store) (now : Instant) (name description : String)
    (path : Path) :
    store.addWorkspace now name description path = (.error (.duplicateWorkspace name), store) ∨
      name ∉ store.workspaces.map Workspace.name ∧
        store.addWorkspace now name description path =
          (.ok ⟨name, description, path, now, now, now, .empty⟩, { store with
            workspaces :=
              store.workspaces ++ [⟨name, description, path, now, now, now, .empty⟩] }) := by
  rw [addWorkspace]
  split
  · exact .inl rfl
  · rename_i hfind
    refine .inr ⟨?_, rfl⟩
    intro hmem
    obtain ⟨workspace, hworkspace, hname⟩ := List.mem_map.mp hmem
    apply hfind
    rw [find?, List.find?_isSome]
    exact ⟨workspace, hworkspace, by simpa using hname⟩

/-- Putting a tag on a workspace again does not modify it. -/
theorem withTag_of_mem (h : tag ∈ workspace.tags) : withTag tag now workspace = workspace := by
  rw [withTag, if_pos h, Names.insert_of_mem h]

theorem withTag_of_not_mem (h : tag ∉ workspace.tags) :
    withTag tag now workspace =
      { workspace with tags := workspace.tags.insert tag, modifiedAt := now } := by
  rw [withTag, if_neg h]

/-! ## Operations that fail -/

section Failing

variable {error : StoreError}

theorem update_eq_error (h : store.update name change = (.error error, after)) :
    after = store := by
  rcases store.update_cases name change with herror | ⟨changed, _, hok⟩
  · rw [herror] at h
    exact (Prod.mk.inj h).2.symm
  · rw [hok] at h
    cases h

theorem addWorkspace_eq_error
    (h : store.addWorkspace now name description path = (.error error, after)) :
    after = store := by
  rcases store.addWorkspace_cases now name description path with herror | ⟨_, hok⟩
  · rw [herror] at h
    exact (Prod.mk.inj h).2.symm
  · rw [hok] at h
    cases h

/-- A tag is refused just if it is there, and then inserting it has changed nothing. -/
theorem addTag_eq_error (h : store.addTag tag = (.error error, after)) : after = store := by
  obtain ⟨hanswer, hafter⟩ := Prod.mk.inj h
  split at hanswer
  · rename_i htag
    rw [← hafter, Names.insert_of_mem htag]
  · cases hanswer

theorem tagWorkspace_eq_error (h : store.tagWorkspace now name tag = (.error error, after)) :
    after = store := by
  rw [tagWorkspace] at h
  split at h
  · exact update_eq_error h
  · exact (Prod.mk.inj h).2.symm

end Failing

end Store

/-! ## Names and tags -/

namespace Store.IsWellFormed

theorem empty : Store.empty.IsWellFormed :=
  ⟨List.nodup_nil, by rintro workspace ⟨⟩⟩

theorem addWorkspace (hstore : store.IsWellFormed) (now : Instant) (name description : String)
    (path : Path) : (store.addWorkspace now name description path).2.IsWellFormed := by
  rcases store.addWorkspace_cases now name description path with herror | ⟨hname, hok⟩
  · rw [herror]
    exact hstore
  rw [hok]
  constructor
  · rw [List.map_append, List.nodup_append]
    refine ⟨hstore.names_distinct, by simp, ?_⟩
    rintro other hother added hadded rfl
    rw [List.map_singleton, List.mem_singleton] at hadded
    subst hadded
    exact hname hother
  · intro workspace hworkspace
    rcases List.mem_append.mp hworkspace with hold | hnew
    · exact hstore.tags_listed workspace hold
    · rw [List.mem_singleton.mp hnew]
      intro tag htag
      exact absurd htag (Names.not_mem_empty tag)

theorem update (hstore : store.IsWellFormed)
    (hname : ∀ workspace, (change workspace).name = workspace.name)
    (htags : ∀ workspace, (∀ tag ∈ workspace.tags, tag ∈ store.tags) →
      ∀ tag ∈ (change workspace).tags, tag ∈ store.tags) :
    (store.update name change).2.IsWellFormed := by
  rcases store.update_cases name change with herror | ⟨changed, hchanged, hok⟩
  · rw [herror]
    exact hstore
  rw [hok]
  constructor
  · rw [map_name_updateFirst hchanged hname]
    exact hstore.names_distinct
  · exact forall_mem_updateFirst hchanged htags hstore.tags_listed

theorem touch (hstore : store.IsWellFormed) (now : Instant) (name : String) :
    (store.touch now name).2.IsWellFormed :=
  hstore.update (fun _ => rfl) (fun _ htags => htags)

theorem addTag (hstore : store.IsWellFormed) (tag : String) :
    (store.addTag tag).2.IsWellFormed := by
  refine ⟨hstore.names_distinct, ?_⟩
  intro workspace hworkspace other hother
  exact Names.mem_insert.mpr (.inr (hstore.tags_listed workspace hworkspace other hother))

theorem tagWorkspace (hstore : store.IsWellFormed) (now : Instant) (name tag : String) :
    (store.tagWorkspace now name tag).2.IsWellFormed := by
  rw [Store.tagWorkspace]
  split
  · rename_i hlisted
    apply hstore.update
    · intro workspace
      rfl
    · intro workspace htags other hother
      rcases Names.mem_insert.mp hother with rfl | hold
      · exact hlisted
      · exact htags other hold
  · exact hstore

end Store.IsWellFormed

/-! ## Times -/

theorem Workspace.IsDatedBy.mono (hworkspace : workspace.IsDatedBy now) (h : now ≤ later) :
    workspace.IsDatedBy later where
  created_le_modified := hworkspace.created_le_modified
  created_le_used := hworkspace.created_le_used
  modified_le := Instant.le_trans hworkspace.modified_le h
  used_le := Instant.le_trans hworkspace.used_le h

/-- Nothing was created after the time either. -/
theorem Workspace.IsDatedBy.created_le (h : workspace.IsDatedBy now) : workspace.createdAt ≤ now :=
  Instant.le_trans h.created_le_modified h.modified_le

namespace Store.IsDatedBy

theorem mono (hstore : store.IsDatedBy now) (h : now ≤ later) : store.IsDatedBy later :=
  fun workspace hworkspace => (hstore workspace hworkspace).mono h

theorem empty (now : Instant) : Store.empty.IsDatedBy now := by
  rintro workspace ⟨⟩

theorem addWorkspace (hstore : store.IsDatedBy now) (name description : String) (path : Path) :
    (store.addWorkspace now name description path).2.IsDatedBy now := by
  rcases store.addWorkspace_cases now name description path with herror | ⟨_, hok⟩
  · rw [herror]
    exact hstore
  rw [hok]
  intro workspace hworkspace
  rcases List.mem_append.mp hworkspace with hold | hnew
  · exact hstore workspace hold
  · rw [List.mem_singleton.mp hnew]
    have hnow := Instant.le_refl now
    exact ⟨hnow, hnow, hnow, hnow⟩

theorem update (hstore : store.IsDatedBy now)
    (hchange : ∀ workspace, workspace.IsDatedBy now → (change workspace).IsDatedBy now) :
    (store.update name change).2.IsDatedBy now := by
  rcases store.update_cases name change with herror | ⟨changed, hchanged, hok⟩
  · rw [herror]
    exact hstore
  · rw [hok]
    exact forall_mem_updateFirst hchanged hchange hstore

theorem touch (hstore : store.IsDatedBy now) (name : String) :
    (store.touch now name).2.IsDatedBy now := by
  apply hstore.update
  intro workspace hworkspace
  exact { hworkspace with
    created_le_used := hworkspace.created_le
    used_le := Instant.le_refl now }

theorem addTag (hstore : store.IsDatedBy now) (tag : String) :
    (store.addTag tag).2.IsDatedBy now :=
  hstore

theorem tagWorkspace (hstore : store.IsDatedBy now) (name tag : String) :
    (store.tagWorkspace now name tag).2.IsDatedBy now := by
  rw [Store.tagWorkspace]
  split
  · apply hstore.update
    intro workspace hworkspace
    by_cases htag : tag ∈ workspace.tags
    · rw [withTag_of_mem htag]
      exact hworkspace
    · rw [withTag_of_not_mem htag]
      exact { hworkspace with
        created_le_modified := hworkspace.created_le
        modified_le := Instant.le_refl now }
  · exact hstore

end Store.IsDatedBy

end Workspaces
