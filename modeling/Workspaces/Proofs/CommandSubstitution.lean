import Workspaces.Desktopfile.Lexeme
import Workspaces.Shell.Quoting

/-!
# Command substitution in a quoted value

A shell drops the null characters of a script before it reads it, so it does not
read quite the text in which a value was escaped.  The one thing that this brings
to light is a dollar sign and a parenthesis with nothing but null characters
between them: they are not next to each other when the value is escaped, and they
are when the shell reads it.
-/

namespace Workspaces.Shell

/-- The text as a shell reads it. -/
def visible (text : List Char) : List Char :=
  text.filter fun c => c ≠ '\x00'

/-- A backquote, or a dollar sign before a parenthesis, that no backslash escapes. -/
def startsSubstitution : List Char → Bool
  | [] => false
  | '`' :: _ => true
  | '\\' :: _ :: text => startsSubstitution text
  | '$' :: '(' :: _ => true
  | _ :: text => startsSubstitution text

def OpensAfterNulls (count : Nat) (text : List Char) : Prop :=
  ∃ after, text = List.replicate count '\x00' ++ '(' :: after

/-- Null characters keep a dollar sign and a parenthesis apart. -/
def HidesSubstitution (value : List Char) : Prop :=
  ∃ before after count,
    value = before ++ '$' :: after ∧ 0 < count ∧ OpensAfterNulls count after

variable {c : Char} {text value : List Char}

/-! ## One character -/

theorem visible_cons (h : c ≠ '\x00') : visible (c :: text) = c :: visible text :=
  List.filter_cons_of_pos (by simpa using h)

theorem visible_null : visible ('\x00' :: text) = visible text :=
  List.filter_cons_of_neg (by simp)

theorem startsSubstitution_escaped :
    startsSubstitution ('\\' :: c :: text) = startsSubstitution text := by
  rw [startsSubstitution]

theorem startsSubstitution_dollar :
    startsSubstitution ('$' :: text) = true ↔
      text.head? = some '(' ∨ startsSubstitution text = true := by
  cases text with
  | nil =>
      simp [startsSubstitution]
  | cons next text =>
      by_cases hnext : next = '('
      · subst hnext
        simp [startsSubstitution]
      · have hdollar : startsSubstitution ('$' :: next :: text) =
            startsSubstitution (next :: text) := by
          rw [startsSubstitution.eq_def]
          split <;> simp_all
        simp [hdollar, hnext]

theorem startsSubstitution_plain (hbackquote : c ≠ '`') (hescape : c ≠ '\\')
    (hdollar : c ≠ '$') :
    startsSubstitution (c :: text) = startsSubstitution text := by
  rw [startsSubstitution.eq_def]
  split <;> simp_all

theorem opensAfterNulls_zero : OpensAfterNulls 0 text ↔ text.head? = some '(' := by
  cases text <;> simp [OpensAfterNulls]

theorem opensAfterNulls_succ {count : Nat} :
    OpensAfterNulls (count + 1) (c :: text) ↔ c = '\x00' ∧ OpensAfterNulls count text := by
  simp [OpensAfterNulls, List.replicate_succ]

theorem hidesSubstitution_cons :
    HidesSubstitution (c :: value) ↔
      (c = '$' ∧ ∃ count, 0 < count ∧ OpensAfterNulls count value) ∨
        HidesSubstitution value := by
  constructor
  · rintro ⟨before, after, count, hvalue, hcount, hopens⟩
    cases before with
    | nil =>
        cases hvalue
        exact .inl ⟨rfl, count, hcount, hopens⟩
    | cons first before =>
        cases hvalue
        exact .inr ⟨before, after, count, rfl, hcount, hopens⟩
  · rintro (⟨rfl, count, hcount, hopens⟩ | ⟨before, after, count, rfl, hcount, hopens⟩)
    · exact ⟨[], value, count, rfl, hcount, hopens⟩
    · exact ⟨c :: before, after, count, rfl, hcount, hopens⟩

theorem exists_opensAfterNulls_cons :
    (∃ count, OpensAfterNulls count (c :: text)) ↔
      c = '(' ∨ c = '\x00' ∧ ∃ count, OpensAfterNulls count text := by
  constructor
  · rintro ⟨count, hopens⟩
    cases count with
    | zero =>
        have hhead := opensAfterNulls_zero.mp hopens
        exact .inl (by simpa using hhead)
    | succ count =>
        obtain ⟨hc, htext⟩ := opensAfterNulls_succ.mp hopens
        exact .inr ⟨hc, count, htext⟩
  · rintro (rfl | ⟨hc, count, htext⟩)
    · exact ⟨0, opensAfterNulls_zero.mpr rfl⟩
    · exact ⟨count + 1, opensAfterNulls_succ.mpr ⟨hc, htext⟩⟩

theorem exists_pos_opensAfterNulls_iff :
    (∃ count, 0 < count ∧ OpensAfterNulls count text) ↔
      text.head? ≠ some '(' ∧ ∃ count, OpensAfterNulls count text := by
  constructor
  · rintro ⟨count, hcount, after, rfl⟩
    refine ⟨?_, count, after, rfl⟩
    obtain ⟨fewer, rfl⟩ := Nat.exists_eq_succ_of_ne_zero (Nat.ne_of_gt hcount)
    simp [List.replicate_succ]
  · rintro ⟨hhead, count, hopens⟩
    refine ⟨count, Nat.pos_of_ne_zero ?_, hopens⟩
    rintro rfl
    exact hhead (opensAfterNulls_zero.mp hopens)

/-! ## A quoted value -/

/-- The first character that a shell reads of a value is a parenthesis only if it is
one of the value, maybe after null characters. -/
theorem head?_visible_escapeActive (value : List Char) :
    (visible (escapeActive value ++ ['"'])).head? = some '(' ↔
      ∃ count, OpensAfterNulls count value := by
  induction value with
  | nil =>
      simp [visible, escapeActive, OpensAfterNulls]
  | cons c value ih =>
      rw [exists_opensAfterNulls_cons]
      by_cases hactive : isActive c value = true
      · have hc := isActive_iff.mp hactive
        rw [escapeActive_of_active hactive, List.cons_append, visible_cons (by decide)]
        rcases hc with rfl | rfl | rfl | ⟨rfl, _⟩ <;> simp
      · rw [escapeActive_of_not_active hactive, List.cons_append]
        by_cases hnull : c = '\x00'
        · subst hnull
          rw [visible_null, ih]
          simp
        · rw [visible_cons hnull]
          simp [hnull]

theorem startsSubstitution_visible_escapeActive (value : List Char) :
    startsSubstitution (visible (escapeActive value ++ ['"'])) = true ↔
      HidesSubstitution value := by
  induction value with
  | nil =>
      simp [visible, escapeActive, startsSubstitution, HidesSubstitution]
  | cons c value ih =>
      rw [hidesSubstitution_cons, exists_pos_opensAfterNulls_iff]
      by_cases hactive : isActive c value = true
      · have hc := isActive_iff.mp hactive
        have hvisible : c ≠ '\x00' := by
          rcases hc with rfl | rfl | rfl | ⟨rfl, _⟩ <;> decide
        have hapart : ¬ (c = '$' ∧ value.head? ≠ some '(' ∧
            ∃ count, OpensAfterNulls count value) := by
          rintro ⟨rfl, hhead, _⟩
          simp [hhead] at hc
        rw [escapeActive_of_active hactive, List.cons_append, List.cons_append,
          visible_cons (by decide), visible_cons hvisible, startsSubstitution_escaped, ih]
        exact (or_iff_right hapart).symm
      · have hc := mt isActive_iff.mpr hactive
        simp only [not_or, not_and] at hc
        obtain ⟨_, hescape, hbackquote, hhead⟩ := hc
        rw [escapeActive_of_not_active hactive, List.cons_append]
        by_cases hnull : c = '\x00'
        · subst hnull
          rw [visible_null, ih]
          simp
        · rw [visible_cons hnull]
          by_cases hdollar : c = '$'
          · rw [hdollar, startsSubstitution_dollar, head?_visible_escapeActive, ih]
            simp [hhead hdollar]
          · rw [startsSubstitution_plain hbackquote hescape hdollar, ih]
            simp [hdollar]

/-- A shell that reads a value in double quotes runs a command exactly if null characters
hide the start of one in the value. -/
theorem quoteExpanding_startsSubstitution_iff (value : String) :
    startsSubstitution (visible (quoteExpanding value).toList) = true ↔
      HidesSubstitution value.toList := by
  rw [toList_quoteExpanding, visible_cons (by decide),
    startsSubstitution_plain (by decide) (by decide) (by decide)]
  exact startsSubstitution_visible_escapeActive value.toList

/-- A literal can denote such a value. -/
theorem quoteExpanding_hides_substitution :
    Desktopfile.tokenize "\"$\\0(id)\"" = .ok ⟨[⟨.string "$\x00(id)", ⟨1, 1⟩⟩], ⟨1, 10⟩⟩ ∧
      ¬ ∀ value,
        startsSubstitution (visible (quoteExpanding value).toList) = false := by
  refine ⟨by cbv, fun h => ?_⟩
  have hstarts := h "$\x00(id)"
  revert hstarts
  decide

end Workspaces.Shell
