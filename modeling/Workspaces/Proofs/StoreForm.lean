import Workspaces.Proofs.TomlLines
import Workspaces.Proofs.WrittenInstants
import Workspaces.Store.Form
import Workspaces.Table

/-!
# The written form of a store read back

The written form of a store is a list of lines, and the document that they make
holds a table of seven fields for each workspace.  The document is followed line
by line: a header begins a table at the end of the list, and a pair is added to
the last table.  What is read from the document is the store that was written,
with all its fields.
-/

namespace Workspaces

open Toml

/-! ## Paths -/

theorem TextUnit.mapM_char?_eq_some {units : List TextUnit} {chars : List Char}
    (h : units.mapM char? = some chars) : units = chars.map char := by
  induction units generalizing chars with
  | nil =>
      cases h
      rfl
  | cons unit units ih =>
      rw [List.mapM_cons] at h
      cases unit with
      | broken bytes =>
          cases h
      | char c =>
          cases hothers : units.mapM char? with
          | none =>
              rw [hothers] at h
              cases h
          | some others =>
              rw [hothers] at h
              cases h
              rw [ih hothers]
              rfl

/-- A path that is a text is the path of that text. -/
theorem Path.eq_ofText {path : Path} {text : String} (h : path.text? = some text) :
    path = ofText text := by
  obtain ⟨chars, hchars, rfl⟩ := Option.map_eq_some_iff.mp h
  obtain ⟨units⟩ := path
  rw [ofText, TextUnit.ofText, String.toList_ofList, ← TextUnit.mapM_char?_eq_some hchars]

/-! ## The lines of a store -/

namespace Workspace

/-- The fields of a workspace whose path is the given text. -/
def fields (workspace : Workspace) (path : String) : Entries :=
  [("name", .string workspace.name), ("description", .string workspace.description),
    ("path", .string path), ("created_at", .string workspace.createdAt.text),
    ("modified_at", .string workspace.modifiedAt.text),
    ("last_used_at", .string workspace.lastUsedAt.text),
    ("tags", .array false (workspace.tags.toList.map .string))]

end Workspace

/-- A field as a line of its own. -/
def Toml.fieldLine (field : String × Value) : Line := .pair ⟨[], field.1⟩ field.2

/-- The lines of one more table at the end of a list of tables. -/
def Toml.tableLines (table : String) (fields : Entries) : List Line :=
  .arrayHeader ⟨[], table⟩ :: fields.map fieldLine

theorem Toml.stringItems_map_toList (strings : List String) :
    stringItems (strings.map String.toList) = strings.map .string := by
  simp [stringItems, Function.comp_def]

theorem Workspace.readLines_lines {workspace : Workspace} {path : String}
    (h : workspace.path.text? = some path) (rest : List Char) :
    ∃ lines, workspace.lines? = some lines ∧
      readLines (header ++ lines ++ rest) =
        (readLines rest).map (tableLines "workspaces" (workspace.fields path) ++ ·) := by
  rw [lines?, h]
  refine ⟨_, rfl, ?_⟩
  have hheader (following : List Char) : header ++ following =
      '\n' :: '[' :: '[' :: ("workspaces".toList ++ ']' :: ']' :: '\n' :: following) := by
    rfl
  rw [List.append_assoc, hheader]
  simp only [List.append_assoc]
  rw [readLines_arrayHeader (by decide), readLines_stringLine (by decide),
    readLines_stringLine (by decide), readLines_stringLine (by decide),
    readLines_stringLine (by decide), readLines_stringLine (by decide),
    readLines_stringLine (by decide), readLines_arrayLine (by decide), stringItems_map_toList]
  simp only [Option.map_map, String.ofList_toList]
  rfl

/-! ## The document of the lines -/

namespace Toml

variable {base old : Entries} {items : List Value} {table key : String} {value : Value}

theorem lookup_append_of_none (h : base.lookup table = none) (entries : Entries) :
    (base ++ entries).lookup table = entries.lookup table := by
  rw [List.lookup_append, h]
  rfl

theorem lookup_eq_none_of_not_mem {entries : Entries} (h : key ∉ entries.map Prod.fst) :
    entries.lookup key = none := by
  rw [List.lookup_eq_none_iff]
  rintro entry hentry
  have hne : key ≠ entry.1 := fun heq => h (heq ▸ List.mem_map_of_mem hentry)
  simpa using hne

theorem replace_append_last (h : base.lookup table = none) (first second : Value) :
    replace table second (base ++ [(table, first)]) = base ++ [(table, second)] := by
  induction base with
  | nil =>
      simp [replace]
  | cons entry base ih =>
      rw [lookup_cons] at h
      split at h
      · cases h
      · rename_i hentry
        rw [List.cons_append, replace, if_neg (Ne.symm hentry), ih h]
        rfl

/-- A draft that ends with an array of tables, to the last of which pairs are added. -/
def listDraft (base : Entries) (table : String) (items : List Value) : Draft :=
  ⟨[table], base ++ [(table, .array true items)]⟩

theorem lookup_listDraft (hbase : base.lookup table = none) (items : List Value) :
    (listDraft base table items).entries.lookup table = some (.array true items) := by
  rw [listDraft, lookup_append_of_none hbase, lookup_cons, if_pos rfl]

theorem add_fieldLine (hbase : base.lookup table = none) (hkey : old.lookup key = none) :
    (listDraft base table (items ++ [.table .header old])).add (fieldLine (key, value)) =
      some (listDraft base table (items ++ [.table .header (old ++ [(key, value)])])) := by
  have hlookup := lookup_listDraft hbase (items ++ [.table .header old])
  simp only [listDraft] at hlookup ⊢
  simp only [Draft.add, fieldLine, descend, hlookup, List.getLast?_concat,
    addPair, if_true, addNew, hkey, Option.isSome_none, Bool.false_eq_true, if_false,
    Option.map_some, List.dropLast_concat, replace_append_last hbase]

theorem foldlM_fieldLines (hbase : base.lookup table = none) (old : Entries) {fields : Entries}
    (h : ((old ++ fields).map Prod.fst).Nodup) :
    (fields.map fieldLine).foldlM Draft.add
        (listDraft base table (items ++ [.table .header old])) =
      some (listDraft base table (items ++ [.table .header (old ++ fields)])) := by
  induction fields generalizing old with
  | nil =>
      simp
  | cons field fields ih =>
      have hkey : old.lookup field.1 = none := by
        apply lookup_eq_none_of_not_mem
        intro hmem
        rw [List.map_append, List.nodup_append] at h
        exact h.2.2 _ hmem _ (by simp) rfl
      have happend : old ++ field :: fields = old ++ [field] ++ fields := by
        simp
      rw [happend] at h ⊢
      rw [List.map_cons, List.foldlM_cons, add_fieldLine hbase hkey]
      exact ih _ h

theorem add_arrayHeader (hbase : base.lookup table = none) :
    (listDraft base table items).add (.arrayHeader ⟨[], table⟩) =
      some (listDraft base table (items ++ [.table .header []])) := by
  have hlookup := lookup_listDraft hbase items
  simp only [listDraft] at hlookup ⊢
  simp only [Draft.add, descend, beginArrayTable, hlookup, Option.map_some,
    replace_append_last hbase, List.nil_append]

/-- The first header of a list of tables. -/
theorem add_arrayHeader_first (hbase : base.lookup table = none) (path : List String) :
    (⟨path, base⟩ : Draft).add (.arrayHeader ⟨[], table⟩) =
      some (listDraft base table ([] ++ [.table .header []])) := by
  simp only [Draft.add, descend, beginArrayTable, hbase, Option.map_some, listDraft,
    List.nil_append]

theorem foldlM_tables (hbase : base.lookup table = none) {tables : List Entries}
    (h : ∀ fields ∈ tables, (fields.map Prod.fst).Nodup) :
    (tables.flatMap (tableLines table)).foldlM Draft.add (listDraft base table items) =
      some (listDraft base table (items ++ tables.map (.table .header))) := by
  induction tables generalizing items with
  | nil =>
      simp
  | cons fields tables ih =>
      obtain ⟨hfields, htables⟩ := List.forall_mem_cons.mp h
      rw [List.flatMap_cons, List.foldlM_append, tableLines, List.foldlM_cons,
        add_arrayHeader hbase]
      simp only [Option.bind_eq_bind, Option.bind_some]
      rw [foldlM_fieldLines hbase [] hfields]
      simp only [Option.bind_some, List.nil_append]
      rw [ih htables, List.append_assoc]
      rfl

/-- The lines of at least one table begin a list of tables. -/
theorem foldlM_tables_first (hbase : base.lookup table = none) {tables : List Entries}
    (hne : tables ≠ []) (h : ∀ fields ∈ tables, (fields.map Prod.fst).Nodup)
    (path : List String) :
    (tables.flatMap (tableLines table)).foldlM Draft.add ⟨path, base⟩ =
      some (listDraft base table (tables.map (.table .header))) := by
  have hadd : (tables.flatMap (tableLines table)).foldlM Draft.add ⟨path, base⟩ =
      (tables.flatMap (tableLines table)).foldlM Draft.add (listDraft base table []) := by
    obtain ⟨fields, others, rfl⟩ := List.exists_cons_of_ne_nil hne
    rw [List.flatMap_cons, tableLines, List.cons_append, List.foldlM_cons, List.foldlM_cons,
      add_arrayHeader_first hbase, add_arrayHeader hbase]
  rw [hadd, foldlM_tables hbase h, List.nil_append]

end Toml

/-! ## What the document says -/

theorem Toml.areLegibleItems_map_string (strings : List String) :
    areLegibleItems (strings.map .string) = true := by
  induction strings with
  | nil =>
      rfl
  | cons string strings ih =>
      rw [List.map_cons, areLegibleItems, ih]
      rfl

theorem Toml.Value.strings?_map_string (ofTables : Bool) (strings : List String) :
    strings? (.array ofTables (strings.map .string)) = some strings := by
  have hmap : (strings.map Value.string).mapM string? = some strings := by
    induction strings with
    | nil =>
        rfl
    | cons string strings ih =>
        rw [List.map_cons, List.mapM_cons, ih]
        rfl
  exact hmap

theorem namesAt?_of_lookup {key : String} {entries : Entries} {names : Names}
    (h : entries.lookup key = some (.array false (names.toList.map .string))) :
    namesAt? key entries = some names := by
  rw [namesAt?, h]
  simp only [Value.strings?_map_string, Option.map_some, Names.ofList_toList]

theorem instantAt?_of_lookup {key : String} {entries : Entries} {instant : Instant}
    (h : entries.lookup key = some (.string instant.text)) :
    instantAt? key entries = some instant := by
  have hstring : stringAt? key entries = some instant.text := by
    rw [stringAt?, h]
    rfl
  rw [instantAt?, hstring, Option.bind_some, Instant.text, Instant.ofText?_ofList_chars]

namespace Workspace

variable {workspace : Workspace} {path : String}

theorem areLegible_fields (workspace : Workspace) (path : String) :
    areLegible (workspace.fields path) = true := by
  simp [fields, areLegible, Value.isLegible, areLegibleItems_map_string]

theorem nodup_fields (workspace : Workspace) (path : String) :
    ((workspace.fields path).map Prod.fst).Nodup := by
  show ["name", "description", "path", "created_at", "modified_at", "last_used_at", "tags"].Nodup
  decide

/-- A table of the fields of a workspace says the workspace. -/
theorem ofValue?_fields (h : workspace.path.text? = some path) (kind : TableKind) :
    ofValue? (.table kind (workspace.fields path)) = some workspace := by
  have hentries : (Value.fields? fieldNames (.table kind (workspace.fields path))).filter
      areLegible = some (workspace.fields path) := by
    simp [Value.fields?, areLegible_fields]
  have hcreated : instantAt? "created_at" (workspace.fields path) = some workspace.createdAt :=
    instantAt?_of_lookup rfl
  have hmodified : instantAt? "modified_at" (workspace.fields path) = some workspace.modifiedAt :=
    instantAt?_of_lookup rfl
  have hused : instantAt? "last_used_at" (workspace.fields path) = some workspace.lastUsedAt :=
    instantAt?_of_lookup rfl
  have htags : namesAt? "tags" (workspace.fields path) = some workspace.tags :=
    namesAt?_of_lookup rfl
  have hname : stringAt? "name" (workspace.fields path) = some workspace.name := rfl
  have hdescription : stringAt? "description" (workspace.fields path) =
      some workspace.description := rfl
  have hpath : stringAt? "path" (workspace.fields path) = some path := rfl
  rw [ofValue?, hentries]
  simp only [Option.bind_eq_bind, Option.bind_some, hname, hdescription, hpath, hcreated,
    hmodified, hused, htags, ← Path.eq_ofText h]
  rfl

/-- The written workspaces are the lines of tables that say them. -/
theorem readLines_workspaces {workspaces : List Workspace} {written : List (List Char)}
    (h : workspaces.mapM lines? = some written) :
    ∃ tables : List Entries, readLines (written.flatMap (header ++ ·)) =
        some (tables.flatMap (tableLines "workspaces")) ∧
      (tables.map (.table .header)).mapM ofValue? = some workspaces ∧
      tables.length = written.length ∧
      ∀ fields ∈ tables, (fields.map Prod.fst).Nodup := by
  induction workspaces generalizing written with
  | nil =>
      cases h
      exact ⟨[], readLines_nil, rfl, rfl, by simp⟩
  | cons workspace workspaces ih =>
      rw [List.mapM_cons] at h
      cases hpath : workspace.path.text? with
      | none =>
          rw [lines?, hpath] at h
          cases h
      | some path =>
          cases hothers : workspaces.mapM lines? with
          | none =>
              rw [lines?, hpath, hothers] at h
              cases h
          | some others =>
              obtain ⟨tables, hlines, hvalues, hlength, hkeys⟩ := ih hothers
              obtain ⟨lines, hfirst, hread⟩ :=
                readLines_lines hpath (others.flatMap (header ++ ·))
              rw [hfirst, hothers] at h
              cases h
              refine ⟨workspace.fields path :: tables, ?_, ?_, congrArg (· + 1) hlength, ?_⟩
              · rw [List.flatMap_cons, hread, hlines]
                rfl
              · rw [List.map_cons, List.mapM_cons, ofValue?_fields hpath, hvalues]
                rfl
              · exact List.forall_mem_cons.mpr ⟨nodup_fields workspace path, hkeys⟩

end Workspace

namespace Store

/-- The entries that a written store begins with. -/
def plainFields (store : Store) : Entries :=
  [("version", .integer store.version.toNat),
    ("tags", .array false (store.tags.toList.map .string))]

theorem isInRange_version (version : UInt32) : isInRange version.toNat = true := by
  have hlt : version.toNat < 4294967296 := version.toNat_lt
  have hupper : ((1 <<< 128 : Nat) : Int) = 340282366920938463463374607431768211456 := by decide
  have hlower : (0 : Int) ≤ ((1 <<< 127 : Nat) : Int) := by decide
  simp only [isInRange, Bool.and_eq_true, decide_eq_true_eq, hupper]
  omega

/-- Entries that begin like a written store and go on with the workspaces say the store. -/
theorem ofEntries?_workspaces {store : Store} {ofTables : Bool} {items : List Value}
    (h : items.mapM Workspace.ofValue? = some store.workspaces) :
    ofEntries? (store.plainFields ++ [("workspaces", .array ofTables items)]) = some store := by
  let entries := store.plainFields ++ [("workspaces", .array ofTables items)]
  have hversion : (entries.lookup "version").bind version? = some store.version := by
    have hlt : (store.version.toNat : Int) < UInt32.size :=
      Int.ofNat_lt.mpr store.version.toNat_lt
    have hlookup : entries.lookup "version" = some (.integer store.version.toNat) := rfl
    rw [hlookup, Option.bind_some, version?, Value.integer?, Option.bind_some,
      if_pos ⟨Int.natCast_nonneg _, hlt⟩, Int.toNat_natCast, UInt32.ofNat_toNat]
  have htags : namesAt? "tags" entries = some store.tags := namesAt?_of_lookup rfl
  have hworkspaces : workspacesAt? "workspaces" entries = some store.workspaces := h
  rw [ofEntries?, hversion, htags, hworkspaces]
  rfl

theorem areLegible_plainFields (store : Store) (value : Value) :
    areLegible (plainEntries (store.plainFields ++ [("workspaces", value)])) = true := by
  show areLegible store.plainFields = true
  simp [plainFields, areLegible, Value.isLegible, areLegibleItems_map_string]

/-- After the version and the tags, a document goes on with what the rest says. -/
theorem parse_opening (store : Store) (rest : List Char) :
    parse (String.ofList (pairLine "version" (Nat.toDigits 10 store.version.toNat) ++
      pairLine "tags" (stringArray (store.tags.toList.map String.toList)) ++ rest)) =
        (readLines rest).bind fun lines =>
          (lines.foldlM Draft.add ⟨[], store.plainFields⟩).map Draft.entries := by
  have hskip (text : List Char) :
      skipMark (pairLine "version" (Nat.toDigits 10 store.version.toNat) ++ text) =
        pairLine "version" (Nat.toDigits 10 store.version.toNat) ++ text := rfl
  have hadd (lines : List Line) :
      ofLines (.pair ⟨[], "version"⟩ (.integer store.version.toNat) ::
        .pair ⟨[], "tags"⟩ (.array false (store.tags.toList.map .string)) :: lines) =
      (lines.foldlM Draft.add ⟨[], store.plainFields⟩).map Draft.entries := rfl
  rw [parse, String.toList_ofList, List.append_assoc, hskip,
    readLines_numberLine (by decide) (isInRange_version _), readLines_arrayLine (by decide),
    stringItems_map_toList]
  cases readLines rest with
  | none =>
      rfl
  | some lines =>
      exact hadd lines

/-- The document of a written store. -/
theorem parse_chars {store : Store} {chars : List Char} (h : store.chars? = some chars) :
    ∃ ofTables items, parse (String.ofList chars) =
        some (store.plainFields ++ [("workspaces", .array ofTables items)]) ∧
      items.mapM Workspace.ofValue? = some store.workspaces := by
  obtain ⟨written, hwritten, rfl⟩ := Option.map_eq_some_iff.mp h
  obtain ⟨tables, hlines, hvalues, hlength, hkeys⟩ := Workspace.readLines_workspaces hwritten
  by_cases hempty : written = []
  · -- An empty list is a line of the document itself.
    have hnone : tables = [] := by
      rw [← List.length_eq_zero_iff, hlength, hempty, List.length_nil]
    have hline : readLines (pairLine "workspaces" ['[', ']']) =
        some [.pair ⟨[], "workspaces"⟩ (.array false [])] := by
      have hread := readLines_arrayLine (by decide : IsBareKey "workspaces") [] []
      rwa [List.append_nil, readLines_nil] at hread
    rw [hnone] at hvalues
    refine ⟨false, [], ?_, hvalues⟩
    rw [if_pos hempty, parse_opening, hline]
    rfl
  · have hne : tables ≠ [] := by
      rwa [Ne, ← List.length_eq_zero_iff, hlength, List.length_eq_zero_iff]
    refine ⟨true, tables.map (.table .header), ?_, hvalues⟩
    rw [if_neg hempty, parse_opening, hlines, Option.bind_some,
      foldlM_tables_first rfl hne hkeys]
    rfl

/-- A written store is read back as it was. -/
theorem ofText?_text {store : Store} {text : String} (h : store.text? = some text) :
    ofText? text = some store := by
  obtain ⟨chars, hchars, rfl⟩ := Option.map_eq_some_iff.mp h
  obtain ⟨ofTables, items, hparse, hitems⟩ := parse_chars hchars
  rw [ofText?, hparse, Option.filter_some, if_pos (areLegible_plainFields store _),
    Option.bind_some, ofEntries?_workspaces hitems]

end Store

end Workspaces
