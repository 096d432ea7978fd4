/-!
# Cutting a list at a separator

Cutting keeps empty pieces, so a list with `n` separators has `n + 1` pieces
and joining the pieces with the separator gives the list back.
-/

namespace Workspaces

/-- The pieces of a list between the places where `separator` stands. -/
def splitOn [DecidableEq α] (separator : α) : List α → List (List α)
  | [] => [[]]
  | head :: tail =>
    if head = separator then [] :: splitOn separator tail
    else
      match splitOn separator tail with
      | [] => [[head]]
      | piece :: pieces => (head :: piece) :: pieces

/-- The pieces in order, with `separator` between two neighbours. -/
def joinWith (separator : List α) : List (List α) → List α
  | [] => []
  | [piece] => piece
  | piece :: next :: pieces => piece ++ separator ++ joinWith separator (next :: pieces)

theorem splitOn_ne_nil [DecidableEq α] (separator : α) (list : List α) :
    splitOn separator list ≠ [] := by
  cases list with
  | nil => simp [splitOn]
  | cons head tail =>
    unfold splitOn
    split
    · simp
    · split <;> simp

theorem not_mem_of_mem_splitOn [DecidableEq α] {separator : α} {list piece : List α}
    (h : piece ∈ splitOn separator list) : separator ∉ piece := by
  induction list generalizing piece with
  | nil =>
    rw [splitOn, List.mem_singleton] at h
    rw [h]
    exact List.not_mem_nil
  | cons head tail ih =>
    rw [splitOn] at h
    by_cases hhead : head = separator
    · rw [if_pos hhead] at h
      rcases List.mem_cons.1 h with rfl | hrest
      · exact List.not_mem_nil
      · exact ih hrest
    · rw [if_neg hhead] at h
      cases hsplit : splitOn separator tail with
      | nil => exact absurd hsplit (splitOn_ne_nil separator tail)
      | cons first others =>
        rw [hsplit] at h ih
        rcases List.mem_cons.1 h with rfl | hrest
        · intro hmem
          rcases List.mem_cons.1 hmem with heq | hmem
          · exact hhead heq.symm
          · exact ih List.mem_cons_self hmem
        · exact ih (List.mem_cons_of_mem first hrest)

theorem splitOn_of_not_mem [DecidableEq α] {separator : α} {word : List α}
    (h : separator ∉ word) : splitOn separator word = [word] := by
  induction word with
  | nil => rfl
  | cons head word ih =>
    obtain ⟨hhead, hword⟩ := not_or.1 (mt List.mem_cons.2 h)
    rw [splitOn, if_neg (Ne.symm hhead), ih hword]

theorem splitOn_append [DecidableEq α] {separator : α} {word : List α} (h : separator ∉ word)
    (rest : List α) :
    splitOn separator (word ++ separator :: rest) = word :: splitOn separator rest := by
  induction word with
  | nil => rw [List.nil_append, splitOn, if_pos rfl]
  | cons head word ih =>
    obtain ⟨hhead, hword⟩ := not_or.1 (mt List.mem_cons.2 h)
    rw [List.cons_append, splitOn, if_neg (Ne.symm hhead), ih hword]

/-- Cutting on both sides of a separator. -/
theorem splitOn_append_separator [DecidableEq α] (separator : α) (list rest : List α) :
    splitOn separator (list ++ separator :: rest) =
      splitOn separator list ++ splitOn separator rest := by
  induction list with
  | nil => simp [splitOn]
  | cons head list ih =>
    rw [List.cons_append, splitOn, splitOn]
    by_cases hhead : head = separator
    · rw [if_pos hhead, if_pos hhead, ih, List.cons_append]
    · rw [if_neg hhead, if_neg hhead, ih]
      cases hpieces : splitOn separator list with
      | nil => exact absurd hpieces (splitOn_ne_nil separator list)
      | cons piece pieces => rfl

/-- What has no separator belongs to the last piece. -/
theorem exists_splitOn_append [DecidableEq α] {separator : α} {word : List α}
    (h : separator ∉ word) (list : List α) :
    ∃ pieces piece, splitOn separator (list ++ word) = pieces ++ [piece ++ word] := by
  induction list with
  | nil => exact ⟨[], [], splitOn_of_not_mem h⟩
  | cons head list ih =>
    obtain ⟨pieces, piece, hpieces⟩ := ih
    rw [List.cons_append, splitOn, hpieces]
    by_cases hhead : head = separator
    · exact ⟨[] :: pieces, piece, if_pos hhead⟩
    · rw [if_neg hhead]
      cases pieces with
      | nil => exact ⟨[], head :: piece, rfl⟩
      | cons first pieces => exact ⟨(head :: first) :: pieces, piece, rfl⟩

theorem mem_joinWith {separator : List α} {pieces : List (List α)} {value : α}
    (h : value ∈ joinWith separator pieces) :
    value ∈ separator ∨ ∃ piece ∈ pieces, value ∈ piece := by
  fun_induction joinWith separator pieces with
  | case1 => cases h
  | case2 piece => exact .inr ⟨piece, List.mem_cons_self, h⟩
  | case3 piece next pieces ih =>
    rcases List.mem_append.1 h with hfront | hrest
    · rcases List.mem_append.1 hfront with hpiece | hseparator
      · exact .inr ⟨piece, List.mem_cons_self, hpiece⟩
      · exact .inl hseparator
    · rcases ih hrest with hseparator | ⟨other, hother, hvalue⟩
      · exact .inl hseparator
      · exact .inr ⟨other, List.mem_cons_of_mem piece hother, hvalue⟩

/-- Pieces without separators are got back from the list that they make. -/
theorem splitOn_joinWith [DecidableEq α] {separator : α} {pieces : List (List α)}
    (hne : pieces ≠ []) (h : ∀ piece ∈ pieces, separator ∉ piece) :
    splitOn separator (joinWith [separator] pieces) = pieces := by
  induction pieces with
  | nil => exact absurd rfl hne
  | cons first others ih =>
    obtain ⟨hfirst, hothers⟩ := List.forall_mem_cons.1 h
    cases others with
    | nil => rw [joinWith, splitOn_of_not_mem hfirst]
    | cons second others =>
      rw [joinWith, List.append_assoc, List.singleton_append, splitOn_append hfirst,
        ih (List.cons_ne_nil _ _) hothers]

end Workspaces
