import Workspaces.Proofs.WellFormed

/-!
# What later stores keep of earlier ones

Nothing that a store remembers is taken away by an operation.  Its workspaces stay at
their places, with what they were created with and with the tags they have; workspaces
are added behind them, and tags are added.
-/

namespace Workspaces

variable {name : String} {change : Workspace → Workspace} {workspaces changed : List Workspace}

/-- A workspace stays the one that was created, with the tags it has. -/
structure Workspace.IsKeptIn (before after : Workspace) : Prop where
  name : after.name = before.name
  description : after.description = before.description
  path : after.path = before.path
  createdAt : after.createdAt = before.createdAt
  tags : ∀ tag ∈ before.tags, tag ∈ after.tags

/-- The workspaces are kept at their places; others may follow. -/
inductive Workspace.AreKeptIn : List Workspace → List Workspace → Prop
  | nil (added : List Workspace) : AreKeptIn [] added
  | cons {first later : Workspace} {rest others : List Workspace} (hfirst : first.IsKeptIn later)
      (hrest : AreKeptIn rest others) : AreKeptIn (first :: rest) (later :: others)

/-- The later store remembers what the earlier one does. -/
structure Store.IsKeptIn (before after : Store) : Prop where
  version : after.version = before.version
  tags : ∀ tag ∈ before.tags, tag ∈ after.tags
  workspaces : Workspace.AreKeptIn before.workspaces after.workspaces

namespace Workspace

theorem IsKeptIn.refl (workspace : Workspace) : workspace.IsKeptIn workspace :=
  ⟨rfl, rfl, rfl, rfl, fun _ h => h⟩

theorem IsKeptIn.trans {first second third : Workspace} (hfirst : first.IsKeptIn second)
    (hsecond : second.IsKeptIn third) : first.IsKeptIn third where
  name := hsecond.name.trans hfirst.name
  description := hsecond.description.trans hfirst.description
  path := hsecond.path.trans hfirst.path
  createdAt := hsecond.createdAt.trans hfirst.createdAt
  tags := fun tag htag => hsecond.tags tag (hfirst.tags tag htag)

theorem AreKeptIn.append (workspaces added : List Workspace) :
    AreKeptIn workspaces (workspaces ++ added) := by
  induction workspaces with
  | nil => exact .nil added
  | cons workspace workspaces ih => exact .cons (.refl workspace) ih

theorem AreKeptIn.refl (workspaces : List Workspace) : AreKeptIn workspaces workspaces := by
  have h := AreKeptIn.append workspaces []
  rwa [List.append_nil] at h

theorem AreKeptIn.trans {first second third : List Workspace} (hfirst : AreKeptIn first second)
    (hsecond : AreKeptIn second third) : AreKeptIn first third := by
  induction hfirst generalizing third with
  | nil added => exact .nil third
  | cons hkept _ ih =>
      cases hsecond with
      | cons hlater hrest => exact .cons (hkept.trans hlater) (ih hrest)

/-- A change of one workspace that keeps it keeps all. -/
theorem AreKeptIn.updateFirst
    (hchange : ∀ workspace : Workspace, workspace.IsKeptIn (change workspace))
    (h : updateFirst name change workspaces = some changed) : AreKeptIn workspaces changed := by
  induction workspaces generalizing changed with
  | nil => cases h
  | cons workspace workspaces ih =>
      rw [Workspaces.updateFirst] at h
      split at h
      · cases h
        exact .cons (hchange workspace) (.refl workspaces)
      · obtain ⟨others, hothers, rfl⟩ := Option.map_eq_some_iff.mp h
        exact .cons (.refl workspace) (ih hothers)

end Workspace

namespace Store.IsKeptIn

theorem refl (store : Store) : store.IsKeptIn store :=
  ⟨rfl, fun _ h => h, .refl _⟩

theorem trans {first second third : Store} (hfirst : first.IsKeptIn second)
    (hsecond : second.IsKeptIn third) : first.IsKeptIn third where
  version := hsecond.version.trans hfirst.version
  tags := fun tag htag => hsecond.tags tag (hfirst.tags tag htag)
  workspaces := hfirst.workspaces.trans hsecond.workspaces

theorem update (store : Store) (name : String)
    (hchange : ∀ workspace : Workspace, workspace.IsKeptIn (change workspace)) :
    store.IsKeptIn (store.update name change).2 := by
  rcases store.update_cases name change with herror | ⟨changed, hchanged, hok⟩
  · rw [herror]
    exact .refl store
  · rw [hok]
    exact ⟨rfl, fun _ htag => htag, .updateFirst hchange hchanged⟩

theorem addWorkspace (store : Store) (now : Instant) (name description : String) (path : Path) :
    store.IsKeptIn (store.addWorkspace now name description path).2 := by
  rcases store.addWorkspace_cases now name description path with herror | ⟨_, hok⟩
  · rw [herror]
    exact .refl store
  · rw [hok]
    exact ⟨rfl, fun _ htag => htag, .append _ _⟩

theorem touch (store : Store) (now : Instant) (name : String) :
    store.IsKeptIn (store.touch now name).2 :=
  .update store name fun _ => ⟨rfl, rfl, rfl, rfl, fun _ htag => htag⟩

theorem addTag (store : Store) (tag : String) : store.IsKeptIn (store.addTag tag).2 :=
  ⟨rfl, fun _ hother => Names.mem_insert.mpr (.inr hother), .refl _⟩

theorem tagWorkspace (store : Store) (now : Instant) (name tag : String) :
    store.IsKeptIn (store.tagWorkspace now name tag).2 := by
  rw [Store.tagWorkspace]
  split
  · exact .update store name fun _ =>
      ⟨rfl, rfl, rfl, rfl, fun _ hother => Names.mem_insert.mpr (.inr hother)⟩
  · exact .refl store

end Store.IsKeptIn

end Workspaces
