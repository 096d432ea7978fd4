import Workspaces.Proofs.SavedStore

/-!
# Plain ways

Before a file is written, the directories on its way are made.  A directory that was just
made is empty, and the rest of the path goes through it.  So making them does not bring
the path to anything, unless the path goes up again.
-/

namespace Workspaces

/-! ## Pieces and names -/

namespace Path

variable {absolute : Bool} {names pieces others : List Name} {path : Path}

/-- A piece that does not name a step. -/
def IsStay (piece : Name) : Prop := piece = [] ∨ piece = here

instance (piece : Name) : Decidable (IsStay piece) := inferInstanceAs (Decidable (_ ∨ _))

/-- The same pieces, but for some that name no step. -/
inductive Skips : List Name → List Name → Prop
  | nil : Skips [] []
  | keep {pieces others : List Name} (piece : Name) (h : Skips pieces others) :
      Skips (piece :: pieces) (piece :: others)
  | skip {piece : Name} {pieces others : List Name} (hpiece : IsStay piece)
      (h : Skips pieces others) : Skips (piece :: pieces) others

theorem Skips.append (front : List Name) (h : Skips pieces others) :
    Skips (front ++ pieces) (front ++ others) := by
  induction front with
  | nil => exact h
  | cons piece front ih => exact .keep piece ih

theorem Skips.filter (pieces : List Name) :
    Skips pieces (pieces.filter fun piece => piece ≠ [] ∧ piece ≠ here) := by
  induction pieces with
  | nil => exact .nil
  | cons piece pieces ih =>
      by_cases hstay : IsStay piece
      · rw [List.filter_cons_of_neg (by simpa [IsStay, Classical.or_iff_not_imp_left] using hstay)]
        exact .skip hstay ih
      · rw [List.filter_cons_of_pos (by simpa [IsStay] using hstay)]
        exact .keep piece ih

theorem skips_names (path : Path) : Skips path.pieces path.names := by
  rw [names]
  cases path.pieces with
  | nil => exact .nil
  | cons first others =>
      dsimp only
      by_cases hfirst : first = []
      · rw [if_pos hfirst]
        exact .skip (.inl hfirst) (.filter others)
      · rw [if_neg hfirst]
        exact .keep first (.filter others)

/-- Names that a path can go through: none is empty and none has a slash in it, and only the
first of a relative path may stay. -/
structure AreNames (absolute : Bool) (names : List Name) : Prop where
  nonempty : ∀ name ∈ names, name ≠ []
  slashless : ∀ name ∈ names, slash ∉ name
  steps : ∀ name ∈ (if absolute then names else names.tail), name ≠ here

theorem isAbsolute_iff : path.isAbsolute = true ↔ ∃ rest, path.units = slash :: rest := by
  rw [isAbsolute, decide_eq_true_iff]
  cases path.units with
  | nil => simp
  | cons unit units => simp

theorem areNames_names (path : Path) : AreNames path.isAbsolute path.names := by
  have hslashless : ∀ name ∈ path.pieces, slash ∉ name := fun _ => not_mem_of_mem_splitOn
  have hfilter (name : Name) (others : List Name)
      (h : name ∈ others.filter fun piece => piece ≠ [] ∧ piece ≠ here) :
      name ∈ others ∧ name ≠ [] ∧ name ≠ here := by
    simpa using h
  cases hpieces : path.pieces with
  | nil => exact absurd hpieces (splitOn_ne_nil slash path.units)
  | cons first others =>
      rw [hpieces] at hslashless
      rw [names, hpieces]
      dsimp only
      by_cases hfirst : first = []
      · rw [if_pos hfirst]
        refine ⟨fun name h => (hfilter name others h).2.1, ?_, ?_⟩
        · intro name h
          exact hslashless name (List.mem_cons_of_mem first (hfilter name others h).1)
        · intro name h
          have hmem : name ∈ others.filter fun piece => piece ≠ [] ∧ piece ≠ here := by
            split at h
            · exact h
            · exact List.mem_of_mem_tail h
          exact (hfilter name others hmem).2.2
      · have hrelative : ¬ path.isAbsolute = true := by
          intro habsolute
          obtain ⟨rest, hunits⟩ := isAbsolute_iff.mp habsolute
          rw [pieces, hunits, splitOn, if_pos rfl] at hpieces
          exact hfirst (List.cons.inj hpieces).1.symm
        rw [if_neg hfirst]
        refine ⟨?_, ?_, ?_⟩
        · intro name h
          rcases List.mem_cons.mp h with rfl | h
          · exact hfirst
          · exact (hfilter name others h).2.1
        · intro name h
          rcases List.mem_cons.mp h with rfl | h
          · exact hslashless name List.mem_cons_self
          · exact hslashless name (List.mem_cons_of_mem first (hfilter name others h).1)
        · intro name h
          rw [if_neg hrelative] at h
          exact (hfilter name others h).2.2

theorem AreNames.dropLast (h : AreNames absolute names) : AreNames absolute names.dropLast := by
  have hmem (name : Name) (hname : name ∈ names.dropLast) : name ∈ names :=
    names.dropLast_subset hname
  refine ⟨fun name hname => h.nonempty name (hmem name hname),
    fun name hname => h.slashless name (hmem name hname), ?_⟩
  intro name hname
  apply h.steps name
  cases absolute with
  | true => exact hmem name hname
  | false =>
      rw [if_neg Bool.false_ne_true] at hname ⊢
      rw [List.tail_dropLast] at hname
      exact names.tail.dropLast_subset hname

/-- The last name stays only if it is the only one of a relative path. -/
theorem AreNames.not_isStay_getLast (h : AreNames absolute names) (hne : names ≠ [])
    (hmore : ¬ (names.dropLast = [] ∧ (!absolute) = true)) : ¬ IsStay (names.getLast hne) := by
  rintro (hempty | hhere)
  · exact h.nonempty _ (List.getLast_mem hne) hempty
  · apply h.steps (names.getLast hne) _ hhere
    cases absolute with
    | true => exact List.getLast_mem hne
    | false =>
        match names with
        | [first] => exact absurd ⟨rfl, rfl⟩ hmore
        | first :: second :: others =>
            rw [if_neg Bool.false_ne_true, List.getLast_cons (List.cons_ne_nil second others)]
            exact List.getLast_mem _

theorem isAbsolute_ofNames (h : AreNames absolute names) :
    (ofNames absolute names).isAbsolute = absolute := by
  cases absolute with
  | true => exact isAbsolute_iff.mpr ⟨_, rfl⟩
  | false =>
      rw [← Bool.not_eq_true, isAbsolute_iff]
      rintro ⟨rest, hunits⟩
      cases names with
      | nil => cases hunits
      | cons first others =>
          have hfirst := h.nonempty first List.mem_cons_self
          have hslash := h.slashless first List.mem_cons_self
          cases first with
          | nil => exact hfirst rfl
          | cons unit units =>
              have hunit : unit = slash := by
                cases others <;> exact (List.cons.inj hunits).1
              exact hslash (hunit ▸ List.mem_cons_self)

/-- The path through names has just these names. -/
theorem names_ofNames (h : AreNames absolute names) : (ofNames absolute names).names = names := by
  have hfilter (others : List Name) (hothers : ∀ name ∈ others, name ≠ [] ∧ name ≠ here) :
      (others.filter fun piece => piece ≠ [] ∧ piece ≠ here) = others := by
    rw [List.filter_eq_self]
    intro name hname
    exact decide_eq_true (hothers name hname)
  cases names with
  | nil => cases absolute <;> rfl
  | cons first others =>
      have hsplit := splitOn_joinWith (List.cons_ne_nil first others) h.slashless
      cases absolute with
      | true =>
          have hpieces : (ofNames true (first :: others)).pieces = [] :: first :: others := by
            rw [pieces, ofNames, if_pos rfl, splitOn, if_pos rfl, hsplit]
          rw [Path.names, hpieces]
          dsimp only
          rw [if_pos rfl, hfilter]
          exact fun name hname => ⟨h.nonempty name hname, h.steps name hname⟩
      | false =>
          have hpieces : (ofNames false (first :: others)).pieces = first :: others := by
            rw [pieces, ofNames, if_neg Bool.false_ne_true, hsplit]
          rw [Path.names, hpieces]
          dsimp only
          rw [if_neg (h.nonempty first List.mem_cons_self), hfilter]
          exact fun name hname =>
            ⟨h.nonempty name (List.mem_cons_of_mem first hname), h.steps name hname⟩

end Path

/-! ## Walks over other pieces, and further -/

namespace Files

variable {files made : Files} {purpose : Purpose} {links : Nat} {location place parent : Location}
  {pieces others : List Path.Name} {piece : Path.Name} {spot : Spot} {absolute : Bool}
  {names : List Path.Name}

theorem IsEntryName.not_isStay (h : IsEntryName piece) : ¬ Path.IsStay piece := by
  rintro (hempty | hhere)
  · exact h.1 hempty
  · exact h.2.1 hhere

/-- A way does not need the pieces that name no step. -/
theorem Leads.of_skips (h : files.Leads purpose links location pieces spot)
    (hskips : Path.Skips pieces others) : files.Leads purpose links location others spot := by
  induction h generalizing others with
  | arrived hnode =>
      cases hskips
      exact .arrived hnode
  | stay hdirectory hpiece _ ih =>
      cases hskips with
      | keep _ hrest => exact .stay hdirectory hpiece (ih hrest)
      | skip _ hrest => exact ih hrest
  | up hdirectory _ ih =>
      cases hskips with
      | keep _ hrest => exact .up hdirectory (ih hrest)
      | skip hstay _ => exact absurd hstay (by decide)
  | vacant hdirectory hpiece hnone =>
      cases hskips with
      | keep _ hrest =>
          cases hrest
          exact .vacant hdirectory hpiece hnone
      | skip hstay _ => exact absurd hstay hpiece.not_isStay
  | entry hdirectory hpiece hlink hpurpose =>
      cases hskips with
      | keep _ hrest =>
          cases hrest
          exact .entry hdirectory hpiece hlink hpurpose
      | skip hstay _ => exact absurd hstay hpiece.not_isStay
  | follow hdirectory hpiece hlink _ ih =>
      cases hskips with
      | keep _ hrest => exact .follow hdirectory hpiece hlink (ih (hrest.append _))
      | skip hstay _ => exact absurd hstay hpiece.not_isStay
  | down hdirectory hpiece hnode hlink _ ih =>
      cases hskips with
      | keep _ hrest => exact .down hdirectory hpiece hnode hlink (ih hrest)
      | skip hstay _ => exact absurd hstay hpiece.not_isStay

/-- Once a directory is made where the pieces led to nothing, a walk along them goes on from it. -/
theorem Leads.walk_append (h : files.Leads purpose links location pieces (.vacant place))
    (hextends : files.Extends made) (hmade : made.get? place = some .directory)
    (further : List Path.Name) :
    ∃ left, made.walk .inspect links location (pieces ++ further) =
      made.walk .inspect left place further := by
  generalize hspot : Spot.vacant place = spot at h
  induction h with
  | arrived _ => cases hspot
  | stay hdirectory hpiece _ ih =>
      obtain ⟨left, hwalk⟩ := ih hspot
      refine ⟨left, ?_⟩
      rw [List.cons_append, walk, hextends _ _ hdirectory]
      simp only [if_pos hpiece, hwalk]
  | up hdirectory _ ih =>
      obtain ⟨left, hwalk⟩ := ih hspot
      have hstay : ¬ (Path.above = [] ∨ Path.above = Path.here) := by decide
      refine ⟨left, ?_⟩
      rw [List.cons_append, walk, hextends _ _ hdirectory]
      simp only [if_neg hstay, if_true, hwalk]
  | @vacant links location piece hdirectory hpiece hnone =>
      cases hspot
      obtain ⟨hempty, hhere, hup, hbytes⟩ := hpiece
      refine ⟨links, ?_⟩
      rw [List.singleton_append, walk, hextends _ _ hdirectory]
      simp [hempty, hhere, hup, Nat.not_lt.mpr hbytes, hmade]
  | entry _ _ _ _ => cases hspot
  | follow hdirectory hpiece hlink _ ih =>
      obtain ⟨left, hwalk⟩ := ih hspot
      obtain ⟨hempty, hhere, hup, hbytes⟩ := hpiece
      refine ⟨left, ?_⟩
      rw [List.cons_append, walk, hextends _ _ hdirectory]
      rw [List.append_assoc] at hwalk
      simpa [hempty, hhere, hup, Nat.not_lt.mpr hbytes, hextends _ _ hlink] using hwalk
  | down hdirectory hpiece hnode hlink _ ih =>
      obtain ⟨left, hwalk⟩ := ih hspot
      obtain ⟨hempty, hhere, hup, hbytes⟩ := hpiece
      refine ⟨left, ?_⟩
      rw [List.cons_append, walk, hextends _ _ hdirectory]
      simp [hempty, hhere, hup, Nat.not_lt.mpr hbytes, hextends _ _ hnode, hwalk]

/-! ## Trees -/

/-- Everything stands in a directory. -/
def IsTree (files : Files) : Prop :=
  ∀ location piece, files.get? (location ++ [piece]) ≠ none →
    files.get? location = some .directory

/-- In a tree nothing is below what is not there. -/
theorem IsTree.get?_append (htree : files.IsTree) (hnone : files.get? place = none)
    (below : Location) : files.get? (place ++ below) = none := by
  induction below generalizing place with
  | nil =>
      rwa [List.append_nil]
  | cons piece below ih =>
      have hpiece : files.get? (place ++ [piece]) = none := by
        cases hpiece : files.get? (place ++ [piece]) with
        | none => rfl
        | some node =>
            rw [htree place piece (hpiece ▸ Option.some_ne_none node)] at hnone
            cases hnone
      rw [List.append_cons]
      exact ih hpiece

/-- Where a walk ends at nothing, a directory is one step above. -/
theorem Leads.parent_of_vacant (h : files.Leads purpose links location pieces (.vacant place)) :
    ∃ parent piece, place = parent ++ [piece] ∧ files.get? parent = some .directory := by
  generalize hspot : Spot.vacant place = spot at h
  induction h with
  | arrived _ => cases hspot
  | stay _ _ _ ih => exact ih hspot
  | up _ _ ih => exact ih hspot
  | vacant hdirectory _ _ =>
      cases hspot
      exact ⟨_, _, rfl, hdirectory⟩
  | entry _ _ _ _ => cases hspot
  | follow _ _ _ _ ih => exact ih hspot
  | down _ _ _ _ _ ih => exact ih hspot

theorem IsTree.set (h : files.IsTree) (hparent : files.get? parent = some .directory)
    (hnone : files.get? (parent ++ [piece]) = none) (node : Node) :
    (files.set (parent ++ [piece]) node).IsTree := by
  have hextends := extends_set hnone node
  have hne : parent ++ [piece] ≠ [] := List.append_ne_nil_of_right_ne_nil _ (List.cons_ne_nil _ _)
  intro location other hother
  rw [get?_set files node _ hne] at hother
  by_cases hsame : location ++ [other] = parent ++ [piece]
  · obtain ⟨rfl, _⟩ := List.append_inj' hsame rfl
    exact hextends _ _ hparent
  · rw [if_neg hsame] at hother
    exact hextends _ _ (h location other hother)

theorem IsTree.create (h : files.IsTree) {path : Path} {node : Node}
    (hcreate : files.create location path node = .ok made) : made.IsTree := by
  rw [Files.create] at hcreate
  split at hcreate
  · cases hcreate
  · rename_i place hfind
    cases hcreate
    have hleads := leads_of_find hfind
    obtain ⟨parent, piece, rfl, hparent⟩ := hleads.parent_of_vacant
    exact h.set hparent hleads.get?_location node
  · cases hcreate

/-! ## Directories on the way -/

/-- A walk along the names does not end at anything. -/
def FindsNothing (files : Files) (links : Nat) (location : Location) (names : List Path.Name) :
    Prop :=
  ∀ place node, files.walk .inspect links location names ≠ .ok (.occupied place node)

/-- Nothing is found in an empty directory. -/
theorem findsNothing_of_empty (hdirectory : files.get? location = some .directory)
    (hempty : ∀ piece, files.get? (location ++ [piece]) = none) (hup : Path.above ∉ names)
    (hstep : ∃ name ∈ names, ¬ Path.IsStay name) : files.FindsNothing links location names := by
  intro place node
  induction names with
  | nil =>
      obtain ⟨_, hmem, _⟩ := hstep
      cases hmem
  | cons name names ih =>
      obtain ⟨habove, hrest⟩ := not_or.mp (mt List.mem_cons.mpr hup)
      rw [walk, hdirectory]
      by_cases hstay : name = [] ∨ name = Path.here
      · simp only [if_pos hstay]
        apply ih hrest
        obtain ⟨step, hmem, hother⟩ := hstep
        rcases List.mem_cons.mp hmem with rfl | hmem
        · exact absurd hstay hother
        · exact ⟨step, hmem, hother⟩
      · simp only [if_neg hstay, if_neg (Ne.symm habove), hempty]
        intro h
        split at h
        · cases h
        · split at h
          · cases h
          · split at h <;> cases h

/-- Nothing is found further on a path that begins with the names. -/
def ClosedBeyond (files : Files) (location : Location) (absolute : Bool)
    (names : List Path.Name) : Prop :=
  ∀ further, Path.above ∉ further → (∃ name ∈ further, ¬ Path.IsStay name) →
    files.FindsNothing maxLinks (if absolute then [] else location) (names ++ further)

theorem ClosedBeyond.of_dropLast (h : files.ClosedBeyond location absolute names.dropLast)
    (hne : names ≠ []) (hup : Path.above ∉ names) :
    files.ClosedBeyond location absolute names := by
  intro further hfurther hstep
  have hlast := h (names.getLast hne :: further) ?_ ?_
  · rwa [List.append_cons, List.dropLast_concat_getLast] at hlast
  · rw [List.mem_cons, not_or]
    exact ⟨fun heq => hup (heq ▸ List.getLast_mem hne), hfurther⟩
  · obtain ⟨name, hmem, hname⟩ := hstep
    exact ⟨name, List.mem_cons_of_mem _ hmem, hname⟩

/-- A directory that was just made closes the path. -/
theorem closedBeyond_of_create (htree : files.IsTree) (hnames : Path.AreNames absolute names)
    (h : files.create location (.ofNames absolute names) .directory = .ok made) :
    made.ClosedBeyond location absolute names := by
  intro further hup hstep
  have hextends := extends_create h
  rw [create] at h
  split at h
  · cases h
  · rename_i place hfind
    cases h
    have hskips := Path.skips_names (.ofNames absolute names)
    rw [Path.names_ofNames hnames] at hskips
    have hleads := (leads_of_find hfind).of_skips hskips
    rw [Path.isAbsolute_ofNames hnames] at hleads
    have hnone : files.get? place = none := hleads.get?_location
    have hne : place ≠ [] := by
      rintro rfl
      cases hnone
    have hmade : (files.set place .directory).get? place = some .directory := by
      rw [get?_set files _ _ hne, if_pos rfl]
    have hempty : ∀ piece, (files.set place .directory).get? (place ++ [piece]) = none := by
      intro piece
      rw [get?_set files _ _ hne, if_neg (by simp)]
      exact htree.get?_append hnone [piece]
    obtain ⟨left, hwalk⟩ := hleads.walk_append hextends hmade further
    intro spot node
    rw [hwalk]
    exact findsNothing_of_empty hmade hempty hup hstep spot node
  · cases h

/-- Making the directories along the names leaves the files as they are, or closes the path. -/
theorem closedBeyond_of_makeTree (htree : files.IsTree) (hnames : Path.AreNames absolute names)
    (hup : Path.above ∉ names) :
    (files.makeTree location absolute names).2.IsTree ∧
      ((files.makeTree location absolute names).2 = files ∨
        (files.makeTree location absolute names).2.ClosedBeyond location absolute names) := by
  -- The shorter path is tried only if the longer one has nothing to stand in.
  have hshorter {first : Path.Name} {others : List Path.Name} {made : Files}
      (hup : Path.above ∉ first :: others)
      (h : made.IsTree ∧ (made = files ∨
        made.ClosedBeyond location absolute (first :: others).dropLast)) :
      made.IsTree ∧ (made = files ∨ made.ClosedBeyond location absolute (first :: others)) :=
    ⟨h.1, h.2.imp_right fun hclosed => hclosed.of_dropLast (List.cons_ne_nil _ _) hup⟩
  fun_induction files.makeTree location absolute names with
  | case1 => exact ⟨htree, .inl rfl⟩
  | case2 names _ path made hcreate =>
      exact ⟨htree.create hcreate, .inr (closedBeyond_of_create htree hnames hcreate)⟩
  | case3 => exact ⟨htree, .inl rfl⟩
  | case4 first others fault made hmade _ path _ ih =>
      rw [hmade] at ih
      exact hshorter hup (ih hnames.dropLast fun h => hup (List.dropLast_subset _ h))
  | case5 first others made hmade done _ path _ hcreate ih =>
      rw [hmade] at ih
      obtain ⟨htree, _⟩ := ih hnames.dropLast fun h => hup (List.dropLast_subset _ h)
      exact ⟨htree.create hcreate, .inr (closedBeyond_of_create htree hnames hcreate)⟩
  | case6 first others made hmade fault _ path _ _ _ ih =>
      rw [hmade] at ih
      exact hshorter hup (ih hnames.dropLast fun h => hup (List.dropLast_subset _ h))
  | case7 first others made hmade fault _ path _ _ _ ih =>
      rw [hmade] at ih
      exact hshorter hup (ih hnames.dropLast fun h => hup (List.dropLast_subset _ h))
  | case8 => exact ⟨htree, .inl rfl⟩
  | case9 => exact ⟨htree, .inl rfl⟩

/-- What a path leads to is found by its names. -/
theorem contains_of_findsNothing {path : Path}
    (h : files.FindsNothing maxLinks (if path.isAbsolute then [] else location) path.names) :
    files.contains location path = false := by
  rw [contains]
  cases hinspect : files.inspect location path with
  | error fault => rfl
  | ok found =>
      have hleads := (leads_of_find (find_of_inspect hinspect)).of_skips (Path.skips_names path)
      exact absurd hleads.walk_inspect (h found.1 found.2)

end Files

namespace Machine

variable {machine : Machine} {path : Path}

/-- Whether a path leads to something. -/
def contains (machine : Machine) (path : Path) : Bool :=
  machine.files.contains machine.directory path

/-- The directories on the way to a path, once made, do not make the path lead to something
that is there already. -/
def HasPlainWay (machine : Machine) (path : Path) : Prop :=
  machine.contains path = false → (machine.withWay path).contains path = false

theorem withWay_of_names (hnames : path.names ≠ []) : machine.withWay path =
    { machine with files := (machine.files.makeTree machine.directory path.isAbsolute
        path.names.dropLast).2 } := by
  have hproper := path.areNames_names.dropLast
  rw [withWay, Path.parent?, if_neg hnames]
  dsimp only
  rw [Files.makeDirectories, Path.isAbsolute_ofNames hproper, Path.names_ofNames hproper]

/-- A path that does not go up has a plain way. -/
theorem hasPlainWay_of_isTree (htree : machine.files.IsTree) (hup : Path.above ∉ path.names) :
    machine.HasPlainWay path := by
  intro habsent
  by_cases hnames : path.names = []
  · rw [withWay, Path.parent?, if_pos hnames]
    exact habsent
  · rw [withWay_of_names hnames, contains]
    have hproper := path.areNames_names
    have hshorter : Path.above ∉ path.names.dropLast :=
      fun h => hup (List.dropLast_subset _ h)
    by_cases hshort : path.names.dropLast = [] ∧ (!path.isAbsolute) = true
    · rw [Files.makeTree, if_pos hshort]
      exact habsent
    · rcases (Files.closedBeyond_of_makeTree htree hproper.dropLast hshorter).2 with
        hsame | hclosed
      · rw [hsame]
        exact habsent
      · have hlast : ∃ name ∈ [path.names.getLast hnames], ¬ Path.IsStay name :=
          ⟨_, List.mem_singleton_self _, hproper.not_isStay_getLast hnames hshort⟩
        have hnothing := hclosed [path.names.getLast hnames]
          (fun h => hup (List.mem_singleton.mp h ▸ List.getLast_mem hnames)) hlast
        rw [List.dropLast_concat_getLast] at hnothing
        exact Files.contains_of_findsNothing hnothing

end Machine

end Workspaces
