import Workspaces.Toml.Writer

/-!
# Strings of TOML read back

A string is written in one of five forms, and each form has a reader of its own.
Whatever the text is, the form that is chosen for it is read back as the text,
and reading stops right after the closing quotes.  Each reader takes one written
character at a time, so the proofs go along the text; only between three double
quotes does a character depend on how many quotes stand before it.
-/

namespace Workspaces.Toml

variable {c : Char} {text rest : List Char}

/-! ## Characters -/

theorem hexValue?_upperHexDigit {n : Nat} (h : n < 16) :
    hexValue? (upperHexDigit n) = some n := by
  have hall : ∀ n < 16, hexValue? (upperHexDigit n) = some n := by decide
  exact hall n h

theorem toNat_lt_of_isControl (h : isControl c = true) : c.toNat < 128 := by
  unfold isControl at h
  simp only [Bool.or_eq_true, Bool.and_eq_true, decide_eq_true_eq] at h
  rcases h with ⟨h, _⟩ | rfl
  · omega
  · decide

/-- A control character is told by its number. -/
theorem readEscape_numbered (h : isControl c = true) (text : List Char) :
    readEscape ('u' :: '0' :: '0' :: upperHexDigit (c.toNat / 16) ::
      upperHexDigit (c.toNat % 16) :: text) = some (c, text) := by
  have hlt := toNat_lt_of_isControl h
  have hhigh : hexValue? (upperHexDigit (c.toNat / 16)) = some (c.toNat / 16) :=
    hexValue?_upperHexDigit (by omega)
  have hlow : hexValue? (upperHexDigit (c.toNat % 16)) = some (c.toNat % 16) :=
    hexValue?_upperHexDigit (Nat.mod_lt _ (by omega))
  have hvalue : c.toNat / 16 * 16 + c.toNat % 16 = c.toNat := by
    omega
  have hvalid : c.toNat.isValidChar := c.valid
  have hzero : hexValue? '0' = some 0 := rfl
  simp [readEscape, shortEscape?, readNumberedChar, readHex, hzero, hhigh, hlow, hvalue, hvalid]

/-- A character is written as itself, or as an escape that is no line break. -/
theorem escapedBasic_cases (c : Char) :
    (escapedBasic c = [c] ∧ c ≠ '\\' ∧ isControl c = false) ∨
      ∃ first others, escapedBasic c = '\\' :: first :: others ∧
        (∀ text, readEscape (first :: (others ++ text)) = some (c, text)) ∧
        isBlankChar first = false ∧ first ≠ '\n' ∧ first ≠ '\r' := by
  unfold escapedBasic
  split
  · rename_i hc
    subst hc
    exact .inr ⟨'b', [], rfl, fun text => rfl, by decide, by decide, by decide⟩
  split
  · rename_i hc
    subst hc
    exact .inr ⟨'t', [], rfl, fun text => rfl, by decide, by decide, by decide⟩
  split
  · rename_i hc
    subst hc
    exact .inr ⟨'f', [], rfl, fun text => rfl, by decide, by decide, by decide⟩
  split
  · rename_i hc
    subst hc
    exact .inr ⟨'r', [], rfl, fun text => rfl, by decide, by decide, by decide⟩
  split
  · rename_i hc
    subst hc
    exact .inr ⟨'\\', [], rfl, fun text => rfl, by decide, by decide, by decide⟩
  split
  · rename_i hcontrol
    exact .inr ⟨'u', _, rfl, fun text => readEscape_numbered hcontrol text, by decide, by decide,
      by decide⟩
  · rename_i hescape hcontrol
    exact .inl ⟨rfl, hescape, by simpa using hcontrol⟩

theorem skipLineBreak?_eq_none (hblank : isBlankChar c = false) (hline : c ≠ '\n')
    (hreturn : c ≠ '\r') (text : List Char) : skipLineBreak? (c :: text) = none := by
  rw [skipLineBreak?, List.dropWhile_cons_of_neg (by simp [hblank])]
  split <;> simp_all

/-! ## One line -/

theorem readBasic_quote (text : List Char) : readBasic ('"' :: text) = some ([], text) := by
  rw [readBasic, if_pos rfl]

theorem readBasic_escape (h : readEscape text = some (c, rest)) :
    readBasic ('\\' :: text) = (readBasic rest).map fun (string, last) => (c :: string, last) := by
  rw [readBasic, if_neg (by decide), if_pos rfl]
  split
  · simp_all
  · simp_all

theorem readBasic_plain (hquote : c ≠ '"') (hescape : c ≠ '\\') (hcontrol : isControl c = false)
    (text : List Char) :
    readBasic (c :: text) = (readBasic text).map fun (string, last) => (c :: string, last) := by
  rw [readBasic, if_neg hquote, if_neg hescape, if_neg (by simp [hcontrol])]

theorem readBasic_escapedBasic (hquote : c ≠ '"') (text : List Char) :
    readBasic (escapedBasic c ++ text) =
      (readBasic text).map fun (string, last) => (c :: string, last) := by
  rcases escapedBasic_cases c with ⟨heq, hescape, hcontrol⟩ | ⟨first, others, heq, hread, _⟩
  · rw [heq]
    exact readBasic_plain hquote hescape hcontrol text
  · rw [heq]
    exact readBasic_escape (hread text)

theorem readBasic_escapeLine (text rest : List Char) :
    readBasic (escapeLine text ++ '"' :: rest) = some (text, rest) := by
  induction text with
  | nil =>
      exact readBasic_quote rest
  | cons c text ih =>
      rw [escapeLine]
      split
      · rename_i hquote
        subst hquote
        rw [List.cons_append, readBasic_escape (c := '"') rfl, List.append_eq, ih]
        rfl
      · split
        · rename_i hline
          subst hline
          rw [List.cons_append, readBasic_escape (c := '\n') rfl, List.append_eq, ih]
          rfl
        · rename_i hquote hline
          rw [List.append_assoc, readBasic_escapedBasic hquote, ih]
          rfl

theorem readLiteral_append (h : fitsLiteral text = true) (rest : List Char) :
    readLiteral (text ++ '\'' :: rest) = some (text, rest) := by
  unfold fitsLiteral at h
  induction text with
  | nil =>
      rfl
  | cons c text ih =>
      simp only [List.any_cons, Bool.not_or, Bool.and_eq_true, Bool.not_eq_true',
        decide_eq_false_iff_not] at h
      obtain ⟨⟨hcontrol, hquote⟩, htext⟩ := h
      have hread := ih (by simpa using htext)
      rw [List.cons_append, readLiteral, if_neg hquote, if_neg (by simp [hcontrol]), hread]
      rfl

/-! ## Closing quotes of several lines -/

variable {quote : Char} {written : List Char}

/-- Closing quotes seem to begin only at quotes before the real ones, or where a text
has three quotes itself. -/
theorem of_startsClosing
    (h : startsClosing quote (written ++ quote :: quote :: quote :: rest) = true) :
    (∃ count ≤ 2, written = List.replicate count quote) ∨
      ∃ more, written = quote :: quote :: quote :: more := by
  match written with
  | [] =>
      exact .inl ⟨0, by decide, rfl⟩
  | [a] =>
      have ha : a = quote := by simpa [startsClosing] using h
      exact .inl ⟨1, by decide, by simp [ha]⟩
  | [a, b] =>
      have hab : a = quote ∧ b = quote := by simpa [startsClosing] using h
      exact .inl ⟨2, by decide, by simp [hab]⟩
  | a :: b :: d :: more =>
      have habd : (a = quote ∧ b = quote) ∧ d = quote := by simpa [startsClosing] using h
      exact .inr ⟨more, by simp [habd]⟩

/-- Quotes before the closing ones look like quotes after them. -/
theorem replicate_append_closing (count : Nat) (rest : List Char) :
    List.replicate count quote ++ quote :: quote :: quote :: rest =
      quote :: quote :: quote :: (List.replicate count quote ++ rest) := by
  induction count with
  | zero =>
      rfl
  | succ count ih =>
      rw [List.replicate_succ, List.cons_append, ih]
      rfl

/-- Up to two quotes after the closing ones belong to the text. -/
theorem readLastQuotes_replicate {count : Nat} (h : count ≤ 2)
    (hrest : rest.head? ≠ some quote) :
    readLastQuotes quote (List.replicate count quote ++ rest) =
      (List.replicate count quote, rest) := by
  have hhead (a : Char) (more : List Char) (heq : rest = a :: more) : a ≠ quote := by
    rintro rfl
    exact hrest (by simp [heq])
  match count, rest with
  | 0, [] =>
      rfl
  | 0, [a] =>
      simp [readLastQuotes, hhead a [] rfl]
  | 0, a :: b :: more =>
      simp [readLastQuotes, hhead a _ rfl]
  | 1, [] =>
      simp [readLastQuotes]
  | 1, a :: more =>
      simp [readLastQuotes, hhead a more rfl]
  | 2, _ =>
      simp [List.replicate, readLastQuotes]

/-! ## Several lines without escapes -/

theorem readMultilineLiteral_closing {count : Nat} (h : count ≤ 2)
    (hrest : rest.head? ≠ some '\'') :
    readMultilineLiteral (List.replicate count '\'' ++ '\'' :: '\'' :: '\'' :: rest) =
      some (List.replicate count '\'', rest) := by
  rw [replicate_append_closing, readMultilineLiteral, if_pos (by simp [startsClosing])]
  exact congrArg some (readLastQuotes_replicate h hrest)

theorem readMultilineLiteral_step (hclosing : startsClosing '\'' (c :: text) = false)
    (hcontrol : isControl c = true → c = '\n') :
    readMultilineLiteral (c :: text) =
      (readMultilineLiteral text).map fun (string, last) => (c :: string, last) := by
  rw [readMultilineLiteral, if_neg (by simp [hclosing]), if_neg]
  rintro ⟨hc, hline, _⟩
  exact hline (hcontrol hc)

theorem le_longestRun (c : Char) (current : Nat) (text : List Char) :
    current ≤ longestRun c current text := by
  induction text generalizing current with
  | nil =>
      exact Nat.le_refl _
  | cons d text ih =>
      rw [longestRun]
      split
      · exact Nat.le_of_succ_le (ih (current + 1))
      · exact Nat.le_max_left _ _

theorem longestRun_mono (c : Char) {first second : Nat} (h : first ≤ second) (text : List Char) :
    longestRun c first text ≤ longestRun c second text := by
  induction text generalizing first second with
  | nil =>
      exact h
  | cons d text ih =>
      rw [longestRun, longestRun]
      split
      · exact ih (Nat.succ_le_succ h)
      · omega

theorem longestRun_tail (c d : Char) (text : List Char) :
    longestRun c 0 text ≤ longestRun c 0 (d :: text) := by
  rw [longestRun]
  split
  · exact longestRun_mono c (Nat.zero_le _) text
  · exact Nat.le_max_right _ _

theorem three_le_longestRun (c : Char) (text : List Char) :
    3 ≤ longestRun c 0 (c :: c :: c :: text) := by
  simp only [longestRun, if_true]
  exact le_longestRun c 3 text

theorem readMultilineLiteral_append (hcontrol : hasControl text = false)
    (hrun : longestRun '\'' 0 text < 3) (hrest : rest.head? ≠ some '\'') :
    readMultilineLiteral (text ++ '\'' :: '\'' :: '\'' :: rest) = some (text, rest) := by
  induction text with
  | nil =>
      exact readMultilineLiteral_closing (Nat.zero_le 2) hrest
  | cons c text ih =>
      by_cases hclosing :
          startsClosing '\'' (c :: text ++ '\'' :: '\'' :: '\'' :: rest) = true
      · rcases of_startsClosing hclosing with ⟨count, hcount, hquotes⟩ | ⟨more, hquotes⟩
        · rw [hquotes]
          exact readMultilineLiteral_closing hcount hrest
        · rw [hquotes] at hrun
          exact absurd (three_le_longestRun '\'' more) (Nat.not_le.mpr hrun)
      · rw [hasControl, List.any_cons, Bool.or_eq_false_iff] at hcontrol
        have hline : isControl c = true → c = '\n' := by
          intro hc
          simpa [hc] using hcontrol.1
        have hread := ih hcontrol.2 (Nat.lt_of_le_of_lt (longestRun_tail '\'' c text) hrun)
        rw [List.cons_append, readMultilineLiteral_step (by simpa using hclosing) hline, hread]
        rfl

/-! ## Several lines with escapes -/

theorem readMultilineBasic_closing {count : Nat} (h : count ≤ 2)
    (hrest : rest.head? ≠ some '"') :
    readMultilineBasic (List.replicate count '"' ++ '"' :: '"' :: '"' :: rest) =
      some (List.replicate count '"', rest) := by
  rw [replicate_append_closing, readMultilineBasic, if_pos (by simp [startsClosing])]
  exact congrArg some (readLastQuotes_replicate h hrest)

theorem readMultilineBasic_plain (hclosing : startsClosing '"' (c :: text) = false)
    (hescape : c ≠ '\\') (hcontrol : isControl c = true → c = '\n') :
    readMultilineBasic (c :: text) =
      (readMultilineBasic text).map fun (string, last) => (c :: string, last) := by
  rw [readMultilineBasic, if_neg (by simp [hclosing]), if_neg hescape, if_neg]
  rintro ⟨hc, hline, _⟩
  exact hline (hcontrol hc)

theorem startsClosing_of_ne (h : c ≠ quote) (text : List Char) :
    startsClosing quote (c :: text) = false := by
  match text with
  | [] =>
      rfl
  | [_] =>
      rfl
  | _ :: _ :: _ =>
      simp [startsClosing, h]

theorem readMultilineBasic_escape {first : Char}
    (hread : readEscape (first :: text) = some (c, rest))
    (hblank : isBlankChar first = false) (hline : first ≠ '\n') (hreturn : first ≠ '\r') :
    readMultilineBasic ('\\' :: first :: text) =
      (readMultilineBasic rest).map fun (string, last) => (c :: string, last) := by
  have hbreak := skipLineBreak?_eq_none hblank hline hreturn text
  rw [readMultilineBasic, if_neg (by rw [startsClosing_of_ne (by decide)]; decide), if_pos rfl]
  split
  · simp_all
  · split
    · simp_all
    · simp_all

theorem readMultilineBasic_escapedBasic (hquote : c ≠ '"') (text : List Char) :
    readMultilineBasic (escapedBasic c ++ text) =
      (readMultilineBasic text).map fun (string, last) => (c :: string, last) := by
  rcases escapedBasic_cases c with
    ⟨heq, hescape, hcontrol⟩ | ⟨first, others, heq, hread, hblank, hline, hreturn⟩
  · rw [heq]
    exact readMultilineBasic_plain (startsClosing_of_ne hquote text) hescape (by simp [hcontrol])
  · rw [heq]
    exact readMultilineBasic_escape (hread text) hblank hline hreturn

theorem escapedBasic_ne_quote (hquote : c ≠ '"') (text more : List Char) :
    escapedBasic c ++ text ≠ '"' :: more := by
  rcases escapedBasic_cases c with ⟨heq, _⟩ | ⟨first, others, heq, _⟩ <;> rw [heq]
  · intro h
    exact hquote (List.cons.inj h).1
  · intro h
    simp at h

/-- A quote in the written text is one of the text, and not the third of a row. -/
theorem of_escapeLines_eq_quote {quotes : Nat}
    (h : escapeLines quotes text = '"' :: written) :
    ∃ others, text = '"' :: others ∧ quotes ≠ 2 ∧ written = escapeLines (quotes + 1) others := by
  cases text with
  | nil =>
      cases h
  | cons c text =>
      rw [escapeLines] at h
      split at h
      · rename_i hquote
        subst hquote
        split at h
        · simp at h
        · rename_i hquotes
          exact ⟨text, rfl, hquotes, (List.cons.inj h).2.symm⟩
      · split at h
        · simp at h
        · rename_i hquote _
          exact absurd h (escapedBasic_ne_quote hquote _ _)

theorem of_escapeLines_eq_nil {quotes : Nat} (h : escapeLines quotes text = []) : text = [] := by
  cases text with
  | nil =>
      rfl
  | cons c text =>
      exfalso
      rw [escapeLines] at h
      split at h
      · split at h <;> cases h
      · split at h
        · cases h
        · rcases escapedBasic_cases c with ⟨heq, _⟩ | ⟨first, others, heq, _⟩ <;>
            simp [heq] at h

/-- Quotes alone are written as they are, so there are at most two of them. -/
theorem of_escapeLines_eq_replicate {quotes count : Nat}
    (h : escapeLines quotes text = List.replicate count '"') :
    text = List.replicate count '"' := by
  induction count generalizing quotes text with
  | zero =>
      exact of_escapeLines_eq_nil h
  | succ count ih =>
      obtain ⟨others, rfl, _, hwritten⟩ := of_escapeLines_eq_quote h
      rw [ih hwritten.symm]
      rfl

theorem escapeLines_ne_three_quotes {quotes : Nat} (h : quotes ≤ 2) (more : List Char) :
    escapeLines quotes text ≠ '"' :: '"' :: '"' :: more := by
  intro hthree
  obtain ⟨second, _, hfirst, htwo⟩ := of_escapeLines_eq_quote hthree
  obtain ⟨third, _, hsecond, hone⟩ := of_escapeLines_eq_quote htwo.symm
  obtain ⟨_, _, hthird, _⟩ := of_escapeLines_eq_quote hone.symm
  omega

theorem readMultilineBasic_escapeLines {quotes : Nat} (h : quotes ≤ 2) (text : List Char)
    (hrest : rest.head? ≠ some '"') :
    readMultilineBasic (escapeLines quotes text ++ '"' :: '"' :: '"' :: rest) =
      some (text, rest) := by
  induction text generalizing quotes with
  | nil =>
      exact readMultilineBasic_closing (Nat.zero_le 2) hrest
  | cons c text ih =>
      by_cases hclosing : startsClosing '"'
          (escapeLines quotes (c :: text) ++ '"' :: '"' :: '"' :: rest) = true
      · rcases of_startsClosing hclosing with ⟨count, hcount, hquotes⟩ | ⟨more, hquotes⟩
        · rw [hquotes, of_escapeLines_eq_replicate hquotes]
          exact readMultilineBasic_closing hcount hrest
        · exact absurd hquotes (escapeLines_ne_three_quotes h more)
      · rw [escapeLines] at hclosing ⊢
        split
        · rename_i hquote
          subst hquote
          split
          · rw [List.cons_append, List.cons_append,
              readMultilineBasic_escape (c := '"') rfl (by decide) (by decide) (by decide),
              ih (Nat.zero_le 2)]
            rfl
          · rename_i htwo
            rw [if_pos rfl, if_neg htwo] at hclosing
            rw [List.cons_append, readMultilineBasic_plain (by simpa using hclosing) (by decide)
              (by decide), ih (by omega)]
            rfl
        · split
          · rename_i hquote hline
            subst hline
            rw [List.cons_append, readMultilineBasic_plain (startsClosing_of_ne hquote _)
              (by decide) (fun _ => rfl), ih (Nat.zero_le 2)]
            rfl
          · rename_i hquote hline
            rw [List.append_assoc, readMultilineBasic_escapedBasic hquote, ih (Nat.zero_le 2)]
            rfl

/-! ## All forms -/

theorem skipFirstLineEnd_of_head (h : ∀ c, text.head? = some c → c ≠ '\n' ∧ c ≠ '\r') :
    skipFirstLineEnd text = text := by
  unfold skipFirstLineEnd
  split
  · exact absurd rfl (h '\n' rfl).1
  · exact absurd rfl (h '\r' rfl).2
  · rfl

/-- Only the line end that is put before a text of several lines is dropped. -/
theorem skipFirstLineEnd_firstLineEnd
    (h : text.contains '\n' = false → ∀ c, written.head? = some c → c ≠ '\n' ∧ c ≠ '\r') :
    skipFirstLineEnd (firstLineEnd text ++ written) = written := by
  unfold firstLineEnd
  split
  · rfl
  · rename_i hline
    exact skipFirstLineEnd_of_head (h (by simpa using hline))

theorem head?_escapeLines (h : text.contains '\n' = false) (following : List Char) :
    ∀ c, (escapeLines 0 text ++ '"' :: following).head? = some c → c ≠ '\n' ∧ c ≠ '\r' := by
  cases text with
  | nil =>
      simp [escapeLines]
  | cons first text =>
      have hfirst : first ≠ '\n' := by
        rintro rfl
        simp at h
      rw [escapeLines]
      split
      · simp
      · rcases escapedBasic_cases first with ⟨heq, _, hcontrol⟩ | ⟨second, others, heq, _⟩
        · have hreturn : first ≠ '\r' := by
            rintro rfl
            exact absurd hcontrol (by decide)
          simpa [heq] using And.intro hfirst hreturn
        · simp [heq]

theorem head?_literal (h : text.contains '\n' = false) (hcontrol : hasControl text = false)
    (following : List Char) :
    ∀ c, (text ++ '\'' :: following).head? = some c → c ≠ '\n' ∧ c ≠ '\r' := by
  cases text with
  | nil =>
      simp
  | cons first text =>
      have hfirst : first ≠ '\n' := by
        rintro rfl
        simp at h
      have hreturn : first ≠ '\r' := by
        rintro rfl
        simp [hasControl, isControl] at hcontrol
      simpa using And.intro hfirst hreturn

theorem startsClosing_escapeLine (hrest : rest.head? ≠ some '"') :
    startsClosing '"' ('"' :: (escapeLine text ++ '"' :: rest)) = false := by
  cases text with
  | nil =>
      cases rest with
      | nil =>
          rfl
      | cons first rest =>
          simpa [escapeLine, startsClosing] using hrest
  | cons c text =>
      rw [escapeLine]
      split
      · cases text <;> simp [startsClosing]
      · split
        · simp [startsClosing]
        · rename_i hquote _
          rcases escapedBasic_cases c with ⟨heq, _⟩ | ⟨first, others, heq, _⟩
          · rw [heq]
            cases escapeLine text <;> simp [startsClosing, hquote]
          · simp [heq, startsClosing]

theorem readQuoted_basic (text : List Char) (hrest : rest.head? ≠ some '"') :
    readQuoted (basic text ++ rest) = some (text, rest) := by
  have hbasic : basic text ++ rest = '"' :: (escapeLine text ++ '"' :: rest) := by
    simp [basic]
  rw [hbasic, readQuoted, if_neg (by simp [startsClosing_escapeLine hrest])]
  exact readBasic_escapeLine text rest

theorem readQuoted_literal (h : fitsLiteral text = true) (hrest : rest.head? ≠ some '\'') :
    readQuoted (literal text ++ rest) = some (text, rest) := by
  have hliteral : literal text ++ rest = '\'' :: (text ++ '\'' :: rest) := by
    simp [literal]
  have hclosing : startsClosing '\'' ('\'' :: (text ++ '\'' :: rest)) = false := by
    match text, rest with
    | [], [] =>
        rfl
    | [], first :: rest =>
        simpa [startsClosing] using hrest
    | c :: text, rest =>
        have hc : c ≠ '\'' := by
          rintro rfl
          simp [fitsLiteral] at h
        cases text <;> simp [startsClosing, hc]
  rw [hliteral, readQuoted, if_neg (by simp [hclosing])]
  exact readLiteral_append h rest

theorem readQuoted_multilineBasic (text : List Char) (hrest : rest.head? ≠ some '"') :
    readQuoted (multilineBasic text ++ rest) = some (text, rest) := by
  have hmultiline : multilineBasic text ++ rest = '"' :: '"' :: '"' ::
      (firstLineEnd text ++ (escapeLines 0 text ++ '"' :: '"' :: '"' :: rest)) := by
    simp [multilineBasic]
  have hskip : skipFirstLineEnd
      (firstLineEnd text ++ (escapeLines 0 text ++ '"' :: '"' :: '"' :: rest)) =
        escapeLines 0 text ++ '"' :: '"' :: '"' :: rest :=
    skipFirstLineEnd_firstLineEnd fun h => head?_escapeLines h _
  rw [hmultiline, readQuoted, if_pos (by simp [startsClosing])]
  exact (congrArg readMultilineBasic hskip).trans
    (readMultilineBasic_escapeLines (Nat.zero_le 2) text hrest)

theorem readQuoted_multilineLiteral (h : fitsMultilineLiteral text = true)
    (hrest : rest.head? ≠ some '\'') :
    readQuoted (multilineLiteral text ++ rest) = some (text, rest) := by
  obtain ⟨hcontrol, hrun⟩ : hasControl text = false ∧ longestRun '\'' 0 text < 3 := by
    simpa [fitsMultilineLiteral] using h
  have hmultiline : multilineLiteral text ++ rest = '\'' :: '\'' :: '\'' ::
      (firstLineEnd text ++ (text ++ '\'' :: '\'' :: '\'' :: rest)) := by
    simp [multilineLiteral]
  have hskip : skipFirstLineEnd
      (firstLineEnd text ++ (text ++ '\'' :: '\'' :: '\'' :: rest)) =
        text ++ '\'' :: '\'' :: '\'' :: rest :=
    skipFirstLineEnd_firstLineEnd fun h => head?_literal h hcontrol _
  rw [hmultiline, readQuoted, if_pos (by simp [startsClosing])]
  exact (congrArg readMultilineLiteral hskip).trans
    (readMultilineLiteral_append hcontrol hrun hrest)

/-- Whatever form is chosen for a text, reading gives the text back and stops after it,
if no quote follows. -/
theorem readQuoted_quoted (text : List Char) (hdouble : rest.head? ≠ some '"')
    (hsingle : rest.head? ≠ some '\'') :
    readQuoted (quoted text ++ rest) = some (text, rest) := by
  unfold quoted
  split
  · exact readQuoted_basic text hdouble
  split
  · rename_i h
    exact readQuoted_literal h hsingle
  split
  · exact readQuoted_multilineBasic text hdouble
  split
  · rename_i h
    exact readQuoted_multilineLiteral h hsingle
  split
  · exact readQuoted_multilineBasic text hdouble
  · exact readQuoted_basic text hdouble

/-- A written string begins with a quote. -/
theorem quoted_eq_cons (text : List Char) :
    ∃ first others, quoted text = first :: others ∧ (first = '"' ∨ first = '\'') := by
  unfold quoted
  split
  · exact ⟨_, _, rfl, .inl rfl⟩
  split
  · exact ⟨_, _, rfl, .inr rfl⟩
  split
  · exact ⟨_, _, rfl, .inl rfl⟩
  split
  · exact ⟨_, _, rfl, .inr rfl⟩
  split
  · exact ⟨_, _, rfl, .inl rfl⟩
  · exact ⟨_, _, rfl, .inl rfl⟩

end Workspaces.Toml
