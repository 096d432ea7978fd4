import Workspaces.Proofs.LoadedStore
import Workspaces.Proofs.StoreRuns

/-!
# What an operation does to the store

An operation on a store is refused, and then the store is as it was, or it changes one
thing and leaves the rest.  The outcomes are listed here without the operations: when
each of them is due, what is answered, and which store it leaves.  Nothing is asked of
the store, so a name may stand for several workspaces and tags may be unknown.
-/

namespace Workspaces

/-! ## Outcomes -/

/-- Some workspace has the name. -/
def Store.Knows (store : Store) (name : String) : Prop :=
  ∃ workspace ∈ store.workspaces, workspace.name = name

/-- A workspace is the first one of a name, between those in front of it and those behind it. -/
structure Store.FirstOf (store : Store) (name : String) (front : List Workspace)
    (found : Workspace) (back : List Workspace) : Prop where
  workspaces : store.workspaces = front ++ found :: back
  named : found.name = name
  first : ∀ workspace ∈ front, workspace.name ≠ name

namespace StoreOperation

/-- The operations that neither read nor write a file. -/
def IsInMemory : StoreOperation → Prop
  | .save _ => False
  | .load _ => False
  | _ => True

def IsRefusedBy (store : Store) : StoreOperation → Prop
  | .addWorkspace name _ _ => store.Knows name
  | .touch name => ¬ store.Knows name
  | .addTag tag => tag ∈ store.tags
  | .tagWorkspace name tag => tag ∉ store.tags ∨ ¬ store.Knows name
  | _ => False

/-- What an operation at a time answers on a store, and the store that it leaves. -/
inductive Outcome (now : Instant) (store : Store) :
    StoreOperation → Except StoreError Unit → Store → Prop
  | nameTaken {name description : String} {path : Path} (hname : store.Knows name) :
      Outcome now store (.addWorkspace name description path)
        (.error (.duplicateWorkspace name)) store
  | added {name description : String} {path : Path} (hname : ¬ store.Knows name) :
      Outcome now store (.addWorkspace name description path) (.ok ())
        { store with
          workspaces := store.workspaces ++ [⟨name, description, path, now, now, now, .empty⟩] }
  | notTouched {name : String} (hname : ¬ store.Knows name) :
      Outcome now store (.touch name) (.error (.unknownWorkspace name)) store
  | touched {name : String} {front back : List Workspace} {found : Workspace}
      (hfound : store.FirstOf name front found back) :
      Outcome now store (.touch name) (.ok ())
        { store with workspaces := front ++ { found with lastUsedAt := now } :: back }
  | tagTaken {tag : String} (htag : tag ∈ store.tags) :
      Outcome now store (.addTag tag) (.error (.duplicateTag tag)) store
  | tagAdded {tag : String} {tags : Names} (htag : tag ∉ store.tags)
      (htags : ∀ other, other ∈ tags ↔ other = tag ∨ other ∈ store.tags) :
      Outcome now store (.addTag tag) (.ok ()) { store with tags := tags }
  | tagMissing {name tag : String} (htag : tag ∉ store.tags) :
      Outcome now store (.tagWorkspace name tag) (.error (.unknownTag tag)) store
  | notTagged {name tag : String} (htag : tag ∈ store.tags) (hname : ¬ store.Knows name) :
      Outcome now store (.tagWorkspace name tag) (.error (.unknownWorkspace name)) store
  | taggedAlready {name tag : String} {front back : List Workspace} {found : Workspace}
      (htag : tag ∈ store.tags) (hfound : store.FirstOf name front found back)
      (hhas : tag ∈ found.tags) :
      Outcome now store (.tagWorkspace name tag) (.ok ()) store
  | tagged {name tag : String} {front back : List Workspace} {found : Workspace} {tags : Names}
      (htag : tag ∈ store.tags) (hfound : store.FirstOf name front found back)
      (hhas : tag ∉ found.tags)
      (htags : ∀ other, other ∈ tags ↔ other = tag ∨ other ∈ found.tags) :
      Outcome now store (.tagWorkspace name tag) (.ok ())
        { store with
          workspaces := front ++ { found with tags := tags, modifiedAt := now } :: back }

end StoreOperation

/-! ## The workspace that a name stands for -/

/-- Increasing lists of names with the same members are the same. -/
theorem Names.eq_of_mem_iff {first second : Names} (h : ∀ name, name ∈ first ↔ name ∈ second) :
    first = second := by
  apply Names.ext
  have hnodup (names : Names) : names.toList.Nodup := by
    apply names.increasing.imp
    intro a b hlt heq
    exact String.lt_irrefl b (heq ▸ hlt)
  have hperm : first.toList.Perm second.toList :=
    (List.perm_ext_iff_of_nodup (hnodup first) (hnodup second)).mpr h
  apply hperm.eq_of_pairwise _ first.increasing second.increasing
  intro a b _ _ hab hba
  exact absurd (String.lt_trans hab hba) (String.lt_irrefl a)

theorem updateFirst_append {name : String} {front back : List Workspace} {found : Workspace}
    (hfront : ∀ workspace ∈ front, workspace.name ≠ name) (hfound : found.name = name)
    (change : Workspace → Workspace) :
    updateFirst name change (front ++ found :: back) = some (front ++ change found :: back) := by
  induction front with
  | nil =>
      rw [List.nil_append, updateFirst, if_pos hfound]
      rfl
  | cons workspace front ih =>
      have hworkspace := hfront workspace List.mem_cons_self
      have hothers := ih fun other hother => hfront other (List.mem_cons_of_mem workspace hother)
      rw [List.cons_append, updateFirst, if_neg hworkspace, hothers]
      rfl

theorem updateFirst_eq_none {name : String} {workspaces : List Workspace}
    (h : ∀ workspace ∈ workspaces, workspace.name ≠ name) (change : Workspace → Workspace) :
    updateFirst name change workspaces = none := by
  induction workspaces with
  | nil =>
      rfl
  | cons workspace workspaces ih =>
      have hothers := ih fun other hother => h other (List.mem_cons_of_mem workspace hother)
      rw [updateFirst, if_neg (h workspace List.mem_cons_self), hothers]
      rfl

namespace Store

variable {store : Store} {name description tag : String} {path : Path} {now : Instant}
  {front back : List Workspace} {found : Workspace} {tags : Names}

theorem find?_isSome_iff : (store.find? name).isSome ↔ store.Knows name := by
  rw [find?, List.find?_isSome]
  simp [Knows]

theorem Knows.exists_firstOf (h : store.Knows name) :
    ∃ front found back, store.FirstOf name front found back := by
  have hfind := find?_isSome_iff.mpr h
  obtain ⟨found, hfound⟩ := Option.isSome_iff_exists.mp hfind
  obtain ⟨hname, front, back, hworkspaces, hfirst⟩ := List.find?_eq_some_iff_append.mp hfound
  refine ⟨front, found, back, hworkspaces, by simpa using hname, ?_⟩
  intro workspace hworkspace
  simpa using hfirst workspace hworkspace

theorem FirstOf.knows (h : store.FirstOf name front found back) : store.Knows name := by
  refine ⟨found, ?_, h.named⟩
  rw [h.workspaces]
  simp

theorem FirstOf.update (h : store.FirstOf name front found back)
    (change : Workspace → Workspace) :
    store.update name change =
      (.ok (), { store with workspaces := front ++ change found :: back }) := by
  rw [Store.update, h.workspaces, updateFirst_append h.first h.named]

theorem update_of_not_knows (h : ¬ store.Knows name) (change : Workspace → Workspace) :
    store.update name change = (.error (.unknownWorkspace name), store) := by
  have hnone : updateFirst name change store.workspaces = none := by
    apply updateFirst_eq_none
    intro workspace hworkspace hname
    exact h ⟨workspace, hworkspace, hname⟩
  rw [update, hnone]

theorem addWorkspace_of_knows (h : store.Knows name) :
    store.addWorkspace now name description path = (.error (.duplicateWorkspace name), store) := by
  rw [addWorkspace, if_pos (find?_isSome_iff.mpr h)]

theorem addWorkspace_of_not_knows (h : ¬ store.Knows name) :
    store.addWorkspace now name description path =
      (.ok ⟨name, description, path, now, now, now, .empty⟩, { store with
        workspaces := store.workspaces ++ [⟨name, description, path, now, now, now, .empty⟩] }) := by
  rw [addWorkspace, if_neg (mt find?_isSome_iff.mp h)]

/-- A tag that is there is inserted again before it is refused, and the store is the same. -/
theorem addTag_of_mem (h : tag ∈ store.tags) :
    store.addTag tag = (.error (.duplicateTag tag), store) := by
  rw [addTag, if_pos h, Names.insert_of_mem h]

theorem addTag_of_not_mem (h : tag ∉ store.tags)
    (htags : ∀ other, other ∈ tags ↔ other = tag ∨ other ∈ store.tags) :
    store.addTag tag = (.ok (), { store with tags := tags }) := by
  have hsame : store.tags.insert tag = tags := by
    apply Names.eq_of_mem_iff
    intro other
    rw [Names.mem_insert, htags]
  rw [addTag, if_neg h, hsame]

theorem tagWorkspace_of_not_mem (h : tag ∉ store.tags) :
    store.tagWorkspace now name tag = (.error (.unknownTag tag), store) := by
  rw [tagWorkspace, if_neg h]

theorem tagWorkspace_of_not_knows (htag : tag ∈ store.tags) (hname : ¬ store.Knows name) :
    store.tagWorkspace now name tag = (.error (.unknownWorkspace name), store) := by
  rw [tagWorkspace, if_pos htag, update_of_not_knows hname]

/-- A tag that the workspace has already is not put on it again, and no time is noted. -/
theorem FirstOf.tagWorkspace_of_mem (h : store.FirstOf name front found back)
    (htag : tag ∈ store.tags) (hhas : tag ∈ found.tags) :
    store.tagWorkspace now name tag = (.ok (), store) := by
  rw [tagWorkspace, if_pos htag, h.update, withTag_of_mem hhas, ← h.workspaces]

theorem FirstOf.tagWorkspace_of_not_mem (h : store.FirstOf name front found back)
    (htag : tag ∈ store.tags) (hhas : tag ∉ found.tags)
    (htags : ∀ other, other ∈ tags ↔ other = tag ∨ other ∈ found.tags) :
    store.tagWorkspace now name tag = (.ok (), { store with
      workspaces := front ++ { found with tags := tags, modifiedAt := now } :: back }) := by
  have hsame : found.tags.insert tag = tags := by
    apply Names.eq_of_mem_iff
    intro other
    rw [Names.mem_insert, htags]
  rw [tagWorkspace, if_pos htag, h.update, withTag_of_not_mem hhas, hsame]

end Store

/-! ## Operations in a run -/

namespace StoreOperation

variable {run : StoreRun} {operation : StoreOperation} {answer : Except StoreError Unit}
  {store after : Store} {now : Instant}

/-- What is listed as an outcome is what happens. -/
theorem Outcome.perform
    (h : Outcome (run.machine.clock run.machine.readings) run.store operation answer after) :
    (run.perform operation).1 = (answer, after) := by
  cases h with
  | nameTaken hname => rw [StoreRun.perform_addWorkspace, Store.addWorkspace_of_knows hname]; rfl
  | added hname => rw [StoreRun.perform_addWorkspace, Store.addWorkspace_of_not_knows hname]; rfl
  | notTouched hname => exact Store.update_of_not_knows hname _
  | touched hfound => exact hfound.update _
  | tagTaken htag => exact Store.addTag_of_mem htag
  | tagAdded htag htags => exact Store.addTag_of_not_mem htag htags
  | tagMissing htag => exact Store.tagWorkspace_of_not_mem htag
  | notTagged htag hname => exact Store.tagWorkspace_of_not_knows htag hname
  | taggedAlready htag hfound hhas => exact hfound.tagWorkspace_of_mem htag hhas
  | tagged htag hfound hhas htags => exact hfound.tagWorkspace_of_not_mem htag hhas htags

theorem Outcome.next
    (h : Outcome (run.machine.clock run.machine.readings) run.store operation answer after) :
    run.answer operation = answer ∧ (run.next operation).store = after := by
  rw [StoreRun.answer, StoreRun.store_next, h.perform]
  exact ⟨rfl, rfl⟩

/-- Some outcome is due, whatever is in the store. -/
theorem exists_outcome (h : operation.IsInMemory) (now : Instant) (store : Store) :
    ∃ answer after, Outcome now store operation answer after := by
  cases operation with
  | addWorkspace name description path =>
      by_cases hname : store.Knows name
      · exact ⟨_, _, .nameTaken hname⟩
      · exact ⟨_, _, .added hname⟩
  | touch name =>
      by_cases hname : store.Knows name
      · obtain ⟨front, found, back, hfound⟩ := hname.exists_firstOf
        exact ⟨_, _, .touched hfound⟩
      · exact ⟨_, _, .notTouched hname⟩
  | addTag tag =>
      by_cases htag : tag ∈ store.tags
      · exact ⟨_, _, .tagTaken htag⟩
      · exact ⟨_, _, .tagAdded htag fun other => Names.mem_insert⟩
  | tagWorkspace name tag =>
      by_cases htag : tag ∈ store.tags
      · by_cases hname : store.Knows name
        · obtain ⟨front, found, back, hfound⟩ := hname.exists_firstOf
          by_cases hhas : tag ∈ found.tags
          · exact ⟨_, _, .taggedAlready htag hfound hhas⟩
          · exact ⟨_, _, .tagged htag hfound hhas fun other => Names.mem_insert⟩
        · exact ⟨_, _, .notTagged htag hname⟩
      · exact ⟨_, _, .tagMissing htag⟩
  | save path => exact absurd h id
  | load path => exact absurd h id

/-- An operation fails on the stores that refuse it. -/
theorem Outcome.isRefusedBy_iff (h : Outcome now store operation answer after) :
    (∃ error, answer = .error error) ↔ operation.IsRefusedBy store := by
  cases h with
  | nameTaken hname => simp [IsRefusedBy, hname]
  | added hname => simp [IsRefusedBy, hname]
  | notTouched hname => simp [IsRefusedBy, hname]
  | touched hfound => simp [IsRefusedBy, hfound.knows]
  | tagTaken htag => simp [IsRefusedBy, htag]
  | tagAdded htag htags => simp [IsRefusedBy, htag]
  | tagMissing htag => simp [IsRefusedBy, htag]
  | notTagged htag hname => simp [IsRefusedBy, hname]
  | taggedAlready htag hfound hhas => simp [IsRefusedBy, htag, hfound.knows]
  | tagged htag hfound hhas htags => simp [IsRefusedBy, htag, hfound.knows]

end StoreOperation

namespace StoreRun

open StoreOperation

/-- On every store an operation fails just if the store refuses it, and then the store that is
held stays as it is.  Its answer and the store that it leaves are those of the outcome that is
due, and no others. -/
theorem next_changes_only (run : StoreRun) (operation : StoreOperation)
    (hoperation : operation.IsInMemory) :
    ((∃ error, run.answer operation = .error error) ↔ operation.IsRefusedBy run.store) ∧
      (operation.IsRefusedBy run.store → (run.next operation).store = run.store) ∧
      ∀ answer after,
        (run.answer operation = answer ∧ (run.next operation).store = after) ↔
          Outcome (run.machine.clock run.machine.readings) run.store operation answer after := by
  obtain ⟨answer, after, houtcome⟩ :=
    exists_outcome hoperation (run.machine.clock run.machine.readings) run.store
  obtain ⟨hanswer, hafter⟩ := houtcome.next
  have hfails := houtcome.isRefusedBy_iff
  subst hanswer hafter
  refine ⟨hfails, ?_, ?_⟩
  · intro hrefused
    obtain ⟨error, herror⟩ := hfails.mpr hrefused
    exact store_next_of_error herror
  · intro answer after
    constructor
    · rintro ⟨rfl, rfl⟩
      exact houtcome
    · exact Outcome.next

/-- A run on a store that was loaded with two workspaces of one name and no listed tag. -/
def twinsRun : StoreRun := ⟨{ tickingMachine with readings := 1 }, .twins, []⟩

theorem next_changes_only_twins :
    (twinsRun.next (.tagWorkspace "a" "t")).store = .twins ∧
      (twinsRun.next (.touch "a")).store.workspaces =
        [{ Store.twin "/first" with lastUsedAt := tick 1 }, Store.twin "/second"] := by
  have htag : IsRefusedBy .twins (.tagWorkspace "a" "t") := .inl (Names.not_mem_empty "t")
  have hfirst : Store.twins.FirstOf "a" [] (Store.twin "/first") [Store.twin "/second"] :=
    ⟨rfl, rfl, by simp⟩
  refine ⟨(next_changes_only twinsRun (.tagWorkspace "a" "t") trivial).2.1 htag, ?_⟩
  have htouched := ((next_changes_only twinsRun (.touch "a") trivial).2.2 _ _).mpr
    (.touched hfirst)
  rw [htouched.2]
  rfl

end StoreRun

end Workspaces
