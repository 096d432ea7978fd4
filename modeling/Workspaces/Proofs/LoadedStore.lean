import Workspaces.Proofs.SavedStore
import Workspaces.Proofs.WellFormed

/-!
# A loaded store

Loading takes over what the document of the file says and asks nothing of it: the
names need not be distinct, and a workspace may have a tag that the document does
not list.  So a loaded store is well-formed just if the document is.
-/

namespace Workspaces

open Toml

namespace Store

/-! ## What a document says -/

/-- The values that a document lists as workspaces. -/
def writtenItems (entries : Entries) : List Value :=
  ((entries.lookup "workspaces").bind Value.items?).getD []

def writtenName? (item : Value) : Option String :=
  (item.fields? Workspace.fieldNames).bind (stringAt? "name")

/-- The strings under the key of tags. -/
def tagsIn (entries : Entries) : List String :=
  ((entries.lookup "tags").bind Value.strings?).getD []

def writtenTags (item : Value) : List String :=
  ((item.fields? Workspace.fieldNames).map tagsIn).getD []

/-- A document that says a name once at most, and no tag of a workspace that it does not list. -/
structure IsWellFormedDocument (entries : Entries) : Prop where
  names_distinct : ((writtenItems entries).filterMap writtenName?).Nodup
  tags_listed : ∀ item ∈ writtenItems entries, ∀ tag ∈ writtenTags item, tag ∈ tagsIn entries

variable {entries : Entries} {key : String} {names : Names} {item : Value} {items : List Value}
  {workspace : Workspace} {workspaces : List Workspace} {store : Store} {text : String}

theorem mem_namesAt? (h : namesAt? "tags" entries = some names) (tag : String) :
    tag ∈ names ↔ tag ∈ tagsIn entries := by
  rw [namesAt?] at h
  rw [tagsIn]
  cases hlookup : entries.lookup "tags" with
  | none =>
      rw [hlookup] at h
      cases h
      simp
  | some value =>
      rw [hlookup] at h
      obtain ⟨strings, hstrings, rfl⟩ := Option.map_eq_some_iff.mp h
      rw [Names.mem_ofList, Option.bind_some, hstrings, Option.getD_some]

/-- The name and the tags of a workspace are those that are written. -/
theorem written_of_ofValue? (h : Workspace.ofValue? item = some workspace) :
    writtenName? item = some workspace.name ∧
      ∀ tag, tag ∈ workspace.tags ↔ tag ∈ writtenTags item := by
  simp only [Workspace.ofValue?, Option.bind_eq_bind, Option.bind_eq_some_iff,
    Option.filter_eq_some_iff] at h
  obtain ⟨fields, ⟨hfields, _⟩, name, hname, description, _, path, _, createdAt, _, modifiedAt, _,
    lastUsedAt, _, tags, htags, hworkspace⟩ := h
  cases hworkspace
  constructor
  · rw [writtenName?, hfields, Option.bind_some, hname]
  · intro tag
    rw [mem_namesAt? htags, writtenTags, hfields]
    rfl

theorem written_of_mapM (h : items.mapM Workspace.ofValue? = some workspaces) (P : String → Prop) :
    workspaces.map Workspace.name = items.filterMap writtenName? ∧
      ((∀ workspace ∈ workspaces, ∀ tag ∈ workspace.tags, P tag) ↔
        ∀ item ∈ items, ∀ tag ∈ writtenTags item, P tag) := by
  induction items generalizing workspaces with
  | nil =>
      cases h
      simp
  | cons item items ih =>
      rw [List.mapM_cons] at h
      obtain ⟨workspace, hworkspace, h⟩ := Option.bind_eq_some_iff.mp h
      obtain ⟨others, hothers, h⟩ := Option.bind_eq_some_iff.mp h
      cases h
      obtain ⟨hname, htags⟩ := written_of_ofValue? hworkspace
      obtain ⟨hnames, hall⟩ := ih hothers
      constructor
      · rw [List.map_cons, List.filterMap_cons_some hname, hnames]
      · simp only [List.forall_mem_cons, hall, htags]

theorem written_of_workspacesAt? (h : workspacesAt? "workspaces" entries = some workspaces)
    (P : String → Prop) :
    workspaces.map Workspace.name = (writtenItems entries).filterMap writtenName? ∧
      ((∀ workspace ∈ workspaces, ∀ tag ∈ workspace.tags, P tag) ↔
        ∀ item ∈ writtenItems entries, ∀ tag ∈ writtenTags item, P tag) := by
  rw [workspacesAt?] at h
  rw [writtenItems]
  cases hlookup : entries.lookup "workspaces" with
  | none =>
      rw [hlookup] at h
      cases h
      simp
  | some value =>
      rw [hlookup] at h
      obtain ⟨items, hitems, h⟩ := Option.bind_eq_some_iff.mp h
      rw [Option.bind_some, hitems]
      exact written_of_mapM h P

/-! ## What is loaded -/

/-- The store that is read from a document is well-formed just if the document is. -/
theorem isWellFormed_ofEntries?_iff (h : ofEntries? entries = some store) :
    store.IsWellFormed ↔ IsWellFormedDocument entries := by
  simp only [ofEntries?, Option.bind_eq_bind, Option.bind_eq_some_iff] at h
  obtain ⟨version, _, tags, htags, workspaces, hworkspaces, hstore⟩ := h
  cases hstore
  obtain ⟨hnames, hall⟩ := written_of_workspacesAt? hworkspaces fun tag => tag ∈ tags
  have hlisted : (∀ item ∈ writtenItems entries, ∀ tag ∈ writtenTags item, tag ∈ tags) ↔
      ∀ item ∈ writtenItems entries, ∀ tag ∈ writtenTags item, tag ∈ tagsIn entries := by
    simp only [mem_namesAt? htags]
  constructor
  · rintro ⟨hdistinct, hsubset⟩
    exact ⟨hnames ▸ hdistinct, hlisted.mp (hall.mp hsubset)⟩
  · rintro ⟨hdistinct, hsubset⟩
    exact ⟨hnames ▸ hdistinct, hall.mpr (hlisted.mpr hsubset)⟩

theorem ofText?_eq_some (h : ofText? text = some store) :
    ∃ entries, Toml.parse text = some entries ∧ ofEntries? entries = some store := by
  obtain ⟨entries, hentries, hstore⟩ := Option.bind_eq_some_iff.mp h
  exact ⟨entries, (Option.filter_eq_some_iff.mp hentries).1, hstore⟩

/-- A store is well-formed just if every name stands for the only workspace that has it and
every tag in use is listed. -/
theorem isWellFormed_iff (store : Store) :
    store.IsWellFormed ↔
      (∀ name workspace, store.find? name = some workspace →
        (store.workspaces.filter fun other => other.name = name) = [workspace]) ∧
      ∀ workspace ∈ store.workspaces, ∀ tag ∈ workspace.tags, tag ∈ store.tags :=
  ⟨fun ⟨hdistinct, hlisted⟩ => ⟨(nodup_names_iff _).mp hdistinct, hlisted⟩,
    fun ⟨honly, hlisted⟩ => ⟨(nodup_names_iff _).mpr honly, hlisted⟩⟩

/-- The document of a file is taken as it is.  A store that is loaded is well-formed just if
its document is, and just then a name stands for the only workspace that has it and every
tag in use is listed. -/
theorem load_isWellFormed_iff (path : Path) (machine : Machine) (store : Store)
    (h : (load path : StoreM Store).run machine = (.ok store, machine)) :
    (store.IsWellFormed ↔
      ∀ text entries, machine.files.contains machine.directory path = true →
        machine.files.readText machine.directory path = .ok text →
          Toml.parse text = some entries → IsWellFormedDocument entries) ∧
    (store.IsWellFormed ↔
      (∀ name workspace, store.find? name = some workspace →
        (store.workspaces.filter fun other => other.name = name) = [workspace]) ∧
      ∀ workspace ∈ store.workspaces, ∀ tag ∈ workspace.tags, tag ∈ store.tags) := by
  refine ⟨?_, store.isWellFormed_iff⟩
  rw [Machine.run_load] at h
  rcases Machine.storeAt_eq_ok (Prod.mk.inj h).1 with
    ⟨habsent, rfl⟩ | ⟨text, hcontains, hread, hstore⟩
  · constructor
    · intro _ text entries hcontains
      rw [habsent] at hcontains
      cases hcontains
    · exact fun _ => .empty
  · obtain ⟨entries, hparse, hentries⟩ := ofText?_eq_some hstore
    rw [isWellFormed_ofEntries?_iff hentries]
    constructor
    · intro hdocument other others _ hother hothers
      rw [hread] at hother
      cases hother
      rw [hparse] at hothers
      cases hothers
      exact hdocument
    · intro hall
      exact hall text entries hcontains hread hparse

/-! ## A document that is not well-formed -/

/-- A workspace with a name that another has too, and a tag that is not listed. -/
def twin (path : String) : Workspace :=
  ⟨"a", "", .ofText path, .epoch, .epoch, .epoch, .ofList ["t"]⟩

def twins : Store := ⟨currentVersion, .empty, [twin "/first", twin "/second"]⟩

def twinsText : String :=
  "version = 1\ntags = []\n" ++
  "\n[[workspaces]]\nname = \"a\"\ndescription = \"\"\npath = \"/first\"\n" ++
  "created_at = \"1970-01-01T00:00:00Z\"\nmodified_at = \"1970-01-01T00:00:00Z\"\n" ++
  "last_used_at = \"1970-01-01T00:00:00Z\"\ntags = [\"t\"]\n" ++
  "\n[[workspaces]]\nname = \"a\"\ndescription = \"\"\npath = \"/second\"\n" ++
  "created_at = \"1970-01-01T00:00:00Z\"\nmodified_at = \"1970-01-01T00:00:00Z\"\n" ++
  "last_used_at = \"1970-01-01T00:00:00Z\"\ntags = [\"t\"]\n"

/-- A machine with the document of the twins in a file. -/
def twinsMachine : Machine :=
  { Machine.bare with
    files := ⟨[([Machine.storePath.units], .file (TextUnit.ofText twinsText) false)]⟩ }

theorem ofText?_twinsText : ofText? twinsText = some twins := by
  have htext : twins.text? = some twinsText := by
    decide +kernel
  exact ofText?_text htext

theorem run_load_twins :
    (load Machine.storePath : StoreM Store).run twinsMachine = (.ok twins, twinsMachine) := by
  have hfile : twinsMachine.files.get? [Machine.storePath.units] =
      some (.file (TextUnit.ofText twinsText) false) := by
    rw [Files.get?, if_neg (by decide)]
    exact (lookup_cons _ _ _).trans (if_pos rfl)
  have hleads : twinsMachine.files.Leads .inspect Files.maxLinks [] [Machine.storePath.units]
      (.occupied [Machine.storePath.units] (.file (TextUnit.ofText twinsText) false)) :=
    .down rfl (by decide) hfile (by rintro target ⟨⟩) (.arrived hfile)
  have hfind : twinsMachine.files.find .inspect [] Machine.storePath =
      .ok (.occupied [Machine.storePath.units] (.file (TextUnit.ofText twinsText) false)) := by
    rw [Files.find, if_neg (by decide), if_neg (by decide), if_neg (by decide)]
    exact hleads.walk_inspect
  have hinspect : twinsMachine.files.inspect [] Machine.storePath =
      .ok ([Machine.storePath.units], .file (TextUnit.ofText twinsText) false) := by
    rw [Files.inspect, hfind]
  obtain ⟨hcontains, hread⟩ := Files.readText_of_inspect hinspect
  rw [Machine.run_load, Machine.storeAt_of_text hcontains hread ofText?_twinsText]

theorem not_nodup_twins : ¬ (twins.workspaces.map Workspace.name).Nodup := by
  decide

theorem load_isWellFormed_iff_twins :
    (load Machine.storePath : StoreM Store).run twinsMachine = (.ok twins, twinsMachine) ∧
      ¬ ∀ text entries, twinsMachine.files.contains [] Machine.storePath = true →
        twinsMachine.files.readText [] Machine.storePath = .ok text →
          Toml.parse text = some entries → IsWellFormedDocument entries := by
  refine ⟨run_load_twins, ?_⟩
  intro hdocument
  have htwins : twins.IsWellFormed :=
    (load_isWellFormed_iff Machine.storePath twinsMachine twins run_load_twins).1.mpr hdocument
  exact not_nodup_twins htwins.names_distinct

/-- Two workspaces of one name are loaded, and a tag that is not listed. -/
theorem load_accepts_twins :
    (load Machine.storePath : StoreM Store).run twinsMachine = (.ok twins, twinsMachine) ∧
      ¬ (twins.workspaces.map Workspace.name).Nodup ∧
      ¬ ∀ workspace ∈ twins.workspaces, ∀ tag ∈ workspace.tags, tag ∈ twins.tags := by
  refine ⟨run_load_twins, not_nodup_twins, ?_⟩
  intro hlisted
  have htag := hlisted (twin "/first") (by decide) "t" (by decide)
  exact absurd htag (Names.not_mem_empty "t")

end Store

end Workspaces
