/-!
# Tables

A table maps names to values.  It is the list of its entries in increasing
order of their names, each name once, so two tables with the same entries are
equal and a table is listed in the order of its names.
-/

namespace Workspaces

/-- Gives `key` the value `value` in an increasing list of entries. -/
def insertEntry (key : String) (value : α) : List (String × α) → List (String × α)
  | [] => [(key, value)]
  | entry :: entries =>
    if key < entry.1 then (key, value) :: entry :: entries
    else if key = entry.1 then (key, value) :: entries
    else entry :: insertEntry key value entries

theorem mem_keys_insertEntry {key other : String} {value : α} {entries : List (String × α)} :
    other ∈ (insertEntry key value entries).map Prod.fst ↔
      other = key ∨ other ∈ entries.map Prod.fst := by
  induction entries with
  | nil => simp [insertEntry]
  | cons entry entries ih =>
    unfold insertEntry
    split
    · simp
    · split
      · rename_i hkey
        simp [hkey]
      · simp only [List.map_cons, List.mem_cons, ih]
        exact or_left_comm

theorem increasing_insertEntry (key : String) (value : α) {entries : List (String × α)}
    (h : (entries.map Prod.fst).Pairwise (· < ·)) :
    ((insertEntry key value entries).map Prod.fst).Pairwise (· < ·) := by
  induction entries with
  | nil => simp [insertEntry]
  | cons entry entries ih =>
    obtain ⟨hhead, htail⟩ := List.pairwise_cons.1 h
    unfold insertEntry
    split
    · rename_i hlt
      refine List.pairwise_cons.2 ⟨?_, h⟩
      intro other hother
      rcases List.mem_cons.1 hother with rfl | hother
      · exact hlt
      · exact String.lt_trans hlt (hhead other hother)
    · split
      · rename_i hkey
        exact List.pairwise_cons.2 ⟨fun other hother => hkey ▸ hhead other hother, htail⟩
      · rename_i hle hne
        refine List.pairwise_cons.2 ⟨?_, ih htail⟩
        intro other hother
        rcases mem_keys_insertEntry.1 hother with rfl | hother
        · rcases Std.le_iff_lt_or_eq.1 (String.not_lt.1 hle) with hlt | heq
          · exact hlt
          · exact absurd heq.symm hne
        · exact hhead other hother

theorem lookup_cons [DecidableEq κ] [BEq κ] [LawfulBEq κ] (key : κ) (entry : κ × α)
    (entries : List (κ × α)) :
    (entry :: entries).lookup key =
      if key = entry.1 then some entry.2 else entries.lookup key := by
  obtain ⟨head, value⟩ := entry
  by_cases h : key = head
  · simp [h]
  · simp [List.lookup_cons, h, beq_eq_false_iff_ne.2 h]

/-- A map from names to values. -/
structure Table (α : Type u) where
  toList : List (String × α)
  increasing : (toList.map Prod.fst).Pairwise (· < ·)

namespace Table

@[ext] theorem ext {a b : Table α} (h : a.toList = b.toList) : a = b := by
  cases a; cases b; cases h; rfl

instance [DecidableEq α] : DecidableEq (Table α) := fun a b =>
  decidable_of_iff (a.toList = b.toList) ⟨ext, fun h => h ▸ rfl⟩

theorem increasing_nil : (([] : List (String × α)).map Prod.fst).Pairwise (· < ·) := .nil

def empty : Table α := ⟨[], increasing_nil⟩

instance : Inhabited (Table α) := ⟨empty⟩

def insert (table : Table α) (key : String) (value : α) : Table α :=
  ⟨insertEntry key value table.toList, increasing_insertEntry key value table.increasing⟩

def get? (table : Table α) (key : String) : Option α :=
  table.toList.lookup key

def keys (table : Table α) : List String := table.toList.map Prod.fst

def size (table : Table α) : Nat := table.toList.length

def isEmpty (table : Table α) : Bool := table.toList.isEmpty

@[simp] theorem get?_empty (key : String) : (empty : Table α).get? key = none := rfl

theorem lookup_insertEntry (key other : String) (value : α) (entries : List (String × α)) :
    (insertEntry key value entries).lookup other =
      if other = key then some value else entries.lookup other := by
  induction entries with
  | nil => simp [insertEntry, lookup_cons]
  | cons entry entries ih =>
    unfold insertEntry
    split
    · simp [lookup_cons]
    · split
      · rename_i hkey
        by_cases h : other = key
        · simp [lookup_cons, h]
        · simp [lookup_cons, h, hkey ▸ h]
      · rename_i hkey
        by_cases hentry : other = entry.1
        · have h : other ≠ key := fun h => hkey (h.symm.trans hentry)
          simp [lookup_cons, hentry, hentry ▸ h]
        · simp [lookup_cons, hentry, ih]

theorem get?_insert (table : Table α) (key other : String) (value : α) :
    (table.insert key value).get? other = if other = key then some value else table.get? other :=
  lookup_insertEntry key other value table.toList

/-- A table holds each of its entries, and no other. -/
theorem get?_eq_some_iff {table : Table α} {key : String} {value : α} :
    table.get? key = some value ↔ (key, value) ∈ table.toList := by
  obtain ⟨entries, hincreasing⟩ := table
  show entries.lookup key = some value ↔ (key, value) ∈ entries
  induction entries with
  | nil => simp
  | cons entry entries ih =>
    obtain ⟨hhead, htail⟩ := List.pairwise_cons.1 hincreasing
    rw [lookup_cons, List.mem_cons]
    by_cases hkey : key = entry.1
    · have hentries : (key, value) ∉ entries := fun hmem =>
        String.lt_irrefl key (hkey ▸ hhead key (List.mem_map_of_mem (f := Prod.fst) hmem))
      rw [if_pos hkey, hkey, Option.some_inj, or_iff_left (hkey ▸ hentries), Prod.ext_iff]
      exact ⟨fun h => ⟨rfl, h.symm⟩, fun h => h.2.symm⟩
    · have hentry : (key, value) ≠ entry := fun h => hkey (congrArg Prod.fst h)
      rw [if_neg hkey, ih htail, or_iff_right hentry]

end Table

end Workspaces
