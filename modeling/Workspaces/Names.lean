/-!
# Sets of names

A set of names is the list of its members in increasing order, each once.
Two sets with the same members are therefore equal, and listing a set is the
same as sorting it.  Names are ordered by their code points.
-/

namespace Workspaces

/-- Puts a name where it belongs in an increasing list. -/
def insertName (name : String) : List String → List String
  | [] => [name]
  | head :: tail =>
    if name < head then name :: head :: tail
    else if name = head then head :: tail
    else head :: insertName name tail

theorem mem_insertName {name other : String} {names : List String} :
    other ∈ insertName name names ↔ other = name ∨ other ∈ names := by
  induction names with
  | nil => simp [insertName]
  | cons head tail ih =>
    unfold insertName
    split
    · simp
    · split
      · rename_i hname
        simp [hname]
      · simp [ih, or_left_comm]

theorem increasing_insertName (name : String) {names : List String}
    (h : names.Pairwise (· < ·)) : (insertName name names).Pairwise (· < ·) := by
  induction names with
  | nil => simp [insertName]
  | cons head tail ih =>
    obtain ⟨hhead, htail⟩ := List.pairwise_cons.1 h
    unfold insertName
    split
    · rename_i hlt
      refine List.pairwise_cons.2 ⟨?_, h⟩
      intro other hother
      rcases List.mem_cons.1 hother with rfl | hother
      · exact hlt
      · exact String.lt_trans hlt (hhead other hother)
    · split
      · exact h
      · rename_i hle hne
        refine List.pairwise_cons.2 ⟨?_, ih htail⟩
        intro other hother
        rcases mem_insertName.1 hother with rfl | hother
        · rcases Std.le_iff_lt_or_eq.1 (String.not_lt.1 hle) with hlt | heq
          · exact hlt
          · exact absurd heq.symm hne
        · exact hhead other hother

/-- A name after all others of a list is put at its end. -/
theorem insertName_of_forall_lt {name : String} {names : List String}
    (h : ∀ other ∈ names, other < name) : insertName name names = names ++ [name] := by
  induction names with
  | nil => rfl
  | cons head tail ih =>
    obtain ⟨hhead, htail⟩ := List.forall_mem_cons.1 h
    have hne : name ≠ head := fun heq => String.lt_irrefl name (heq ▸ hhead)
    have hle : ¬ name < head := fun hlt => String.lt_irrefl head (String.lt_trans hhead hlt)
    rw [insertName, if_neg hle, if_neg hne, ih htail]
    rfl

/-- A name that is there already is not put there again. -/
theorem insertName_of_mem {name : String} {names : List String}
    (h : names.Pairwise (· < ·)) (hname : name ∈ names) : insertName name names = names := by
  induction names with
  | nil => cases hname
  | cons head tail ih =>
    obtain ⟨hhead, htail⟩ := List.pairwise_cons.1 h
    rcases List.mem_cons.1 hname with rfl | hmem
    · rw [insertName, if_neg (String.lt_irrefl name), if_pos rfl]
    · have hlt : head < name := hhead name hmem
      have hle : ¬ name < head := fun hgt => String.lt_irrefl head (String.lt_trans hlt hgt)
      have hne : name ≠ head := fun heq => hle (heq ▸ hlt)
      rw [insertName, if_neg hle, if_neg hne, ih htail hmem]

/-- A set of names. -/
structure Names where
  toList : List String
  increasing : toList.Pairwise (· < ·)

namespace Names

@[ext] theorem ext {a b : Names} (h : a.toList = b.toList) : a = b := by
  cases a; cases b; cases h; rfl

instance : DecidableEq Names := fun a b =>
  decidable_of_iff (a.toList = b.toList) ⟨ext, fun h => h ▸ rfl⟩

theorem increasing_nil : ([] : List String).Pairwise (· < ·) := .nil

def empty : Names := ⟨[], increasing_nil⟩

instance : Inhabited Names := ⟨empty⟩

instance : Membership String Names := ⟨fun names name => name ∈ names.toList⟩

instance (name : String) (names : Names) : Decidable (name ∈ names) :=
  inferInstanceAs (Decidable (name ∈ names.toList))

def insert (names : Names) (name : String) : Names :=
  ⟨insertName name names.toList, increasing_insertName name names.increasing⟩

def ofList (list : List String) : Names :=
  list.foldl insert empty

def isEmpty (names : Names) : Bool := names.toList.isEmpty

theorem mem_toList {name : String} {names : Names} : name ∈ names.toList ↔ name ∈ names :=
  Iff.rfl

theorem toList_foldl_insert {names : Names} {list : List String}
    (h : (names.toList ++ list).Pairwise (· < ·)) :
    (list.foldl insert names).toList = names.toList ++ list := by
  induction list generalizing names with
  | nil => simp
  | cons name list ih =>
    have hlt : ∀ other ∈ names.toList, other < name := fun other hother =>
      (List.pairwise_append.1 h).2.2 other hother name List.mem_cons_self
    have hinsert : (names.insert name).toList = names.toList ++ [name] :=
      insertName_of_forall_lt hlt
    have happend : (names.insert name).toList ++ list = names.toList ++ name :: list := by
      simp [hinsert]
    rw [List.foldl_cons, ih (happend ▸ h), happend]

/-- A set is the set of the names that it lists. -/
theorem ofList_toList (names : Names) : ofList names.toList = names := by
  apply ext
  exact toList_foldl_insert names.increasing

@[simp] theorem not_mem_empty (name : String) : name ∉ empty := by
  simp [← mem_toList, empty]

@[simp] theorem mem_insert {name other : String} {names : Names} :
    other ∈ names.insert name ↔ other = name ∨ other ∈ names :=
  mem_insertName

/-- Inserting a name that is there changes nothing. -/
theorem insert_of_mem {name : String} {names : Names} (h : name ∈ names) :
    names.insert name = names :=
  ext (insertName_of_mem names.increasing h)

theorem mem_foldl_insert {name : String} {names : Names} {list : List String} :
    name ∈ list.foldl insert names ↔ name ∈ names ∨ name ∈ list := by
  induction list generalizing names with
  | nil => simp
  | cons head list ih =>
    rw [List.foldl_cons, ih, mem_insert, List.mem_cons]
    exact ⟨fun h => by rcases h with (h | h) | h <;> simp [h],
      fun h => by rcases h with h | h | h <;> simp [h]⟩

theorem mem_ofList {name : String} {list : List String} : name ∈ ofList list ↔ name ∈ list := by
  rw [ofList, mem_foldl_insert]
  simp

end Names

end Workspaces
