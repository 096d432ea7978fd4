import Mathlib.Data.List.Nodup
import Workspaces.Proofs.StoreOutcomes
import Workspaces.Proofs.TagHistory

/-!
# The order of use

The listing by use has every workspace once, the one used last first, and leaves those used
at one time in the order of the store.  No other list does.  So using a workspace later than
all others puts it in front of the listing that is left without it.
-/

namespace Workspaces

theorem Instant.le_of_lt {a b : Instant} (h : a < b) : a ≤ b :=
  (le_total a b).resolve_right h

theorem Instant.ne_of_lt {a b : Instant} (h : a < b) : a ≠ b := by
  rintro rfl
  exact h (le_refl a)

/-- No workspace was used after one that stands in front of it. -/
def AreDescending (workspaces : List Workspace) : Prop :=
  workspaces.Pairwise fun first second => second.lastUsedAt ≤ first.lastUsedAt

instance (workspaces : List Workspace) : Decidable (AreDescending workspaces) :=
  inferInstanceAs (Decidable (workspaces.Pairwise _))

/-- The workspaces that were used last at a time. -/
def usedAt (time : Instant) (workspaces : List Workspace) : List Workspace :=
  workspaces.filter fun workspace => workspace.lastUsedAt = time

/-- A list has the workspaces of another, the one used last first and those that were used at
one time in the order of the other. -/
structure IsInOrderOfUse (listing workspaces : List Workspace) : Prop where
  perm : listing.Perm workspaces
  descending : AreDescending listing
  ties : ∀ time, usedAt time listing = usedAt time workspaces

section

variable {time : Instant} {workspace found : Workspace}
  {workspaces listing first second front back : List Workspace}

/-! ## Workspaces of one time -/

theorem mem_usedAt :
    workspace ∈ usedAt time workspaces ↔ workspace ∈ workspaces ∧ workspace.lastUsedAt = time := by
  rw [usedAt, List.mem_filter, decide_eq_true_iff]

theorem usedAt_append (time : Instant) (first second : List Workspace) :
    usedAt time (first ++ second) = usedAt time first ++ usedAt time second :=
  List.filter_append first second

theorem usedAt_cons_of_eq (h : workspace.lastUsedAt = time) (workspaces : List Workspace) :
    usedAt time (workspace :: workspaces) = workspace :: usedAt time workspaces :=
  List.filter_cons_of_pos (decide_eq_true h)

theorem usedAt_cons_of_ne (h : workspace.lastUsedAt ≠ time) (workspaces : List Workspace) :
    usedAt time (workspace :: workspaces) = usedAt time workspaces :=
  List.filter_cons_of_neg (by simpa using h)

theorem usedAt_eq_nil (h : ∀ workspace ∈ workspaces, workspace.lastUsedAt ≠ time) :
    usedAt time workspaces = [] := by
  apply List.filter_eq_nil_iff.mpr
  intro workspace hworkspace
  simpa using h workspace hworkspace

/-! ## There is one order -/

theorem AreDescending.le_head (h : AreDescending (found :: workspaces))
    (hworkspace : workspace ∈ found :: workspaces) :
    workspace.lastUsedAt ≤ found.lastUsedAt := by
  rcases List.mem_cons.mp hworkspace with rfl | hrest
  · exact Instant.le_refl _
  · exact List.rel_of_pairwise_cons h hrest

theorem mem_of_usedAt_eq (h : ∀ time, usedAt time first = usedAt time second)
    (hworkspace : workspace ∈ first) : workspace ∈ second := by
  have hused : workspace ∈ usedAt workspace.lastUsedAt first := mem_usedAt.mpr ⟨hworkspace, rfl⟩
  rw [h] at hused
  exact (mem_usedAt.mp hused).1

/-- The times and the order within each of them leave no choice. -/
theorem AreDescending.eq (hfirst : AreDescending first) (hsecond : AreDescending second)
    (h : ∀ time, usedAt time first = usedAt time second) : first = second := by
  have hback : ∀ time, usedAt time second = usedAt time first := fun time => (h time).symm
  induction first generalizing second with
  | nil =>
      cases second with
      | nil => rfl
      | cons other second => cases mem_of_usedAt_eq hback List.mem_cons_self
  | cons workspace first ih =>
      cases second with
      | nil => cases mem_of_usedAt_eq h List.mem_cons_self
      | cons other second =>
          -- Each head is in the other list, so neither was used before the other.
          have htime : workspace.lastUsedAt = other.lastUsedAt :=
            Instant.le_antisymm
              (hsecond.le_head (mem_of_usedAt_eq h List.mem_cons_self))
              (hfirst.le_head (mem_of_usedAt_eq hback List.mem_cons_self))
          have hheads := h other.lastUsedAt
          rw [usedAt_cons_of_eq htime, usedAt_cons_of_eq rfl] at hheads
          obtain rfl := (List.cons.inj hheads).1
          have hrests : ∀ time, usedAt time first = usedAt time second := by
            intro time
            have hused := h time
            by_cases hat : workspace.lastUsedAt = time
            · rw [usedAt_cons_of_eq hat, usedAt_cons_of_eq hat] at hused
              exact (List.cons.inj hused).2
            · rwa [usedAt_cons_of_ne hat, usedAt_cons_of_ne hat] at hused
          rw [ih hfirst.of_cons hsecond.of_cons hrests fun time => (hrests time).symm]

theorem IsInOrderOfUse.unique (hfirst : IsInOrderOfUse first workspaces)
    (hsecond : IsInOrderOfUse second workspaces) : first = second :=
  hfirst.descending.eq hsecond.descending fun time =>
    (hfirst.ties time).trans (hsecond.ties time).symm

theorem AreDescending.isInOrderOfUse (h : AreDescending workspaces) :
    IsInOrderOfUse workspaces workspaces :=
  ⟨.refl workspaces, h, fun _ => rfl⟩

/-! ## Leaving out and putting in front -/

theorem IsInOrderOfUse.filter (h : IsInOrderOfUse listing workspaces) (keep : Workspace → Bool) :
    IsInOrderOfUse (listing.filter keep) (workspaces.filter keep) where
  perm := h.perm.filter keep
  descending := h.descending.filter keep
  ties := by
    intro time
    rw [usedAt, usedAt, List.filter_comm, List.filter_comm _ keep]
    exact congrArg (List.filter keep) (h.ties time)

/-- What was used after all others comes first, wherever the store has it. -/
theorem IsInOrderOfUse.cons_latest (h : IsInOrderOfUse listing (front ++ back))
    (hlatest : ∀ workspace ∈ front ++ back, workspace.lastUsedAt < found.lastUsedAt) :
    IsInOrderOfUse (found :: listing) (front ++ found :: back) where
  perm := (h.perm.cons found).trans List.perm_middle.symm
  descending := by
    apply List.Pairwise.cons _ h.descending
    intro workspace hworkspace
    exact Instant.le_of_lt (hlatest workspace (h.perm.mem_iff.mp hworkspace))
  ties := by
    intro time
    have hties := h.ties time
    by_cases htime : found.lastUsedAt = time
    · have hnone : usedAt time (front ++ back) = [] :=
        usedAt_eq_nil fun workspace hworkspace =>
          htime ▸ Instant.ne_of_lt (hlatest workspace hworkspace)
      rw [hnone] at hties
      rw [usedAt_append, List.append_eq_nil_iff] at hnone
      rw [usedAt_cons_of_eq htime, hties, usedAt_append, usedAt_cons_of_eq htime, hnone.1, hnone.2,
        List.nil_append]
    · rw [usedAt_cons_of_ne htime, hties, usedAt_append, usedAt_append, usedAt_cons_of_ne htime]

theorem filter_name_ne (h : ((front ++ found :: back).map Workspace.name).Nodup) :
    (front ++ found :: back).filter (fun workspace => workspace.name ≠ found.name) =
      front ++ back := by
  rw [List.map_append, List.map_cons, List.nodup_middle, List.nodup_cons, ← List.map_append] at h
  have hname : ∀ workspace ∈ front ++ back, workspace.name ≠ found.name := by
    intro workspace hworkspace heq
    exact h.1 (heq ▸ List.mem_map_of_mem hworkspace)
  rw [List.filter_append, List.filter_cons_of_neg (by simp), ← List.filter_append]
  apply List.filter_eq_self.mpr
  intro workspace hworkspace
  simpa using hname workspace hworkspace

end

namespace Store

/-! ## The listing -/

theorem isRecentAs_iff {first second : Workspace} :
    isRecentAs first second = true ↔ second.lastUsedAt ≤ first.lastUsedAt :=
  decide_eq_true_iff

theorem isRecentAs_trans (first second third : Workspace)
    (hfirst : isRecentAs first second = true) (hsecond : isRecentAs second third = true) :
    isRecentAs first third = true := by
  rw [isRecentAs_iff] at *
  exact Instant.le_trans hsecond hfirst

theorem isRecentAs_total (first second : Workspace) :
    (isRecentAs first second || isRecentAs second first) = true := by
  rw [Bool.or_eq_true, isRecentAs_iff, isRecentAs_iff]
  exact Instant.le_total _ _

/-- The workspaces of one time are a part of the store that is in order already, and the sort
keeps such parts. -/
theorem usedAt_byRecency (store : Store) (time : Instant) :
    usedAt time store.byRecency = usedAt time store.workspaces := by
  have hsorted : (usedAt time store.workspaces).Pairwise
      fun first second => isRecentAs first second = true := by
    apply List.pairwise_of_forall_mem_list
    intro first hfirst second hsecond
    rw [isRecentAs_iff, (mem_usedAt.mp hfirst).2, (mem_usedAt.mp hsecond).2]
    exact Instant.le_refl _
  have hkept : (usedAt time store.workspaces).Sublist store.byRecency :=
    List.sublist_mergeSort isRecentAs_trans isRecentAs_total hsorted List.filter_sublist
  have hused := hkept.filter fun workspace => workspace.lastUsedAt = time
  rw [usedAt, List.filter_filter] at hused
  simp only [Bool.and_self] at hused
  have hperm := store.perm_byRecency.filter fun workspace => workspace.lastUsedAt = time
  exact (hused.eq_of_length hperm.length_eq.symm).symm

theorem isInOrderOfUse_byRecency (store : Store) :
    IsInOrderOfUse store.byRecency store.workspaces where
  perm := store.perm_byRecency
  descending := by
    have hsorted := List.pairwise_mergeSort isRecentAs_trans isRecentAs_total store.workspaces
    exact hsorted.imp isRecentAs_iff.mp
  ties := store.usedAt_byRecency

/-! ## Using a workspace -/

theorem firstOf_of_nodup {store : Store} {front back : List Workspace} {found : Workspace}
    (hnames : (store.workspaces.map Workspace.name).Nodup)
    (hworkspaces : store.workspaces = front ++ found :: back) :
    store.FirstOf found.name front found back := by
  refine ⟨hworkspaces, rfl, ?_⟩
  intro workspace hworkspace heq
  rw [hworkspaces, List.map_append, List.map_cons, List.nodup_middle, List.nodup_cons] at hnames
  apply hnames.1
  rw [List.mem_append, ← heq]
  exact .inl (List.mem_map_of_mem hworkspace)

/-- The listing is in the order of use.  If names are distinct and a workspace is used later
than all others were, it is put in front of the listing without it, and nothing else about
the store changes. -/
theorem byRecency_touch (store : Store) :
    IsInOrderOfUse store.byRecency store.workspaces ∧
      ∀ found ∈ store.workspaces, ∀ now : Instant,
        (store.workspaces.map Workspace.name).Nodup →
        (∀ workspace ∈ store.workspaces, workspace.lastUsedAt < now) →
        ∃ front back newer older after,
          store.workspaces = front ++ found :: back ∧
          store.byRecency = newer ++ found :: older ∧
          store.touch now found.name = (.ok (), after) ∧
          after = { store with workspaces := front ++ { found with lastUsedAt := now } :: back } ∧
          after.byRecency = { found with lastUsedAt := now } :: (newer ++ older) := by
  refine ⟨store.isInOrderOfUse_byRecency, ?_⟩
  intro found hfound now hnames hlater
  obtain ⟨front, back, hworkspaces⟩ := List.append_of_mem hfound
  obtain ⟨newer, older, hlisting⟩ := List.append_of_mem (store.perm_byRecency.mem_iff.mpr hfound)
  have hfirst := firstOf_of_nodup hnames hworkspaces
  have hrest : IsInOrderOfUse (newer ++ older) (front ++ back) := by
    have hlistingNames : (store.byRecency.map Workspace.name).Nodup :=
      (store.perm_byRecency.map Workspace.name).nodup_iff.mpr hnames
    have hothers := store.isInOrderOfUse_byRecency.filter fun workspace =>
      workspace.name ≠ found.name
    rw [hlisting] at hlistingNames hothers
    rw [hworkspaces] at hnames hothers
    rwa [filter_name_ne hlistingNames, filter_name_ne hnames] at hothers
  refine ⟨front, back, newer, older, _, hworkspaces, hlisting, hfirst.update _, rfl, ?_⟩
  apply (isInOrderOfUse_byRecency _).unique
  apply hrest.cons_latest
  intro workspace hworkspace
  apply hlater workspace
  rw [hworkspaces]
  rcases List.mem_append.mp hworkspace with hfront | hback
  · exact List.mem_append_left _ hfront
  · exact List.mem_append_right _ (List.mem_cons_of_mem _ hback)

/-- Three workspaces, of which the first two were used in one second and the third after them. -/
def tied : Store :=
  ⟨currentVersion, .empty, [ofSecond 0 "a", ofSecond 0 "b", ofSecond 1 "c"]⟩
where
  ofSecond (second : Int) (name : String) : Workspace :=
    ⟨name, "", ⟨[]⟩, .epoch, .epoch, (Instant.ofUnix? second 0).getD .epoch, .empty⟩

theorem byRecency_tied :
    tied.byRecency = [tied.ofSecond 1 "c", tied.ofSecond 0 "a", tied.ofSecond 0 "b"] := by
  have hothers : AreDescending ([tied.ofSecond 0 "a", tied.ofSecond 0 "b"] ++ []) := by decide
  apply tied.isInOrderOfUse_byRecency.unique
  exact hothers.isInOrderOfUse.cons_latest (by decide)

theorem byRecency_touch_tied : ∃ now after, tied.touch now "b" = (.ok (), after) ∧
    after.byRecency.map Workspace.name = ["b", "c", "a"] := by
  obtain ⟨front, back, newer, older, after, -, hlisting, htouch, -, hlatest⟩ :=
    (byRecency_touch tied).2 (tied.ofSecond 0 "b") (by decide)
      ((Instant.ofUnix? 2 0).getD .epoch) (by decide) (by decide)
  refine ⟨_, after, htouch, ?_⟩
  rw [hlatest]
  have hnames : ((newer ++ tied.ofSecond 0 "b" :: older).map Workspace.name).Nodup := by
    rw [← hlisting, byRecency_tied]
    decide
  rw [← filter_name_ne hnames, ← hlisting, byRecency_tied]
  decide

end Store

end Workspaces
