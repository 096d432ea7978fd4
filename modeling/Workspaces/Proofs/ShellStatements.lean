import Workspaces.Proofs.Flattening
import Workspaces.Script

/-!
# Words and statements as the shell delimits them

A word in double quotes ends at the quote that closes it: a backslash takes the
next character, and an expansion that is opened inside the word has to be closed
before the word can be.  A statement ends with its line, unless the line end is
quoted.  A value that is written in double quotes keeps its references, so it is
the value that has to close what it opens; it is shown that nothing else matters,
for its own word and for the statements of the script.
-/

namespace Workspaces.Shell

inductive Opened where
  | quotes
  | expansion
deriving DecidableEq, Repr

/-- The text after the point at which all that is open is closed, the innermost first. -/
def closing : List Opened → List Char → Option (List Char)
  | [], text => some text
  | _ :: _, [] => none
  | opened, '\\' :: _ :: text => closing opened text
  | .quotes :: outer, '"' :: text => closing outer text
  | .expansion :: outer, '"' :: text => closing (.quotes :: .expansion :: outer) text
  | .expansion :: outer, '\x7d' :: text => closing outer text
  | opened, '$' :: '\x7b' :: text => closing (.expansion :: opened) text
  | opened, _ :: text => closing opened text

def afterQuotedWord : List Char → Option (List Char)
  | '"' :: text => closing [.quotes] text
  | _ => none

/-- How many expansions are open after a text, if so many are open before it. -/
def openExpansions : Nat → List Char → Nat
  | depth, [] => depth
  | depth, '$' :: '\x7b' :: text => openExpansions (depth + 1) text
  | depth, '\x7d' :: text => openExpansions (depth - 1) text
  | depth, _ :: text => openExpansions depth text

/-- Every expansion that a value opens is closed in the value. -/
def ClosesExpansions (value : String) : Prop :=
  openExpansions 0 value.toList = 0

instance (value : String) : Decidable (ClosesExpansions value) :=
  inferInstanceAs (Decidable (_ = _))

/-! ## One character of a word -/

theorem length_closing {opened : List Opened} {text rest : List Char}
    (h : closing opened text = some rest) :
    rest.length ≤ text.length ∧ (opened ≠ [] → rest.length < text.length) := by
  fun_induction closing opened text with
  | case1 text =>
      cases h
      exact ⟨Nat.le_refl _, fun hne => absurd rfl hne⟩
  | case2 =>
      cases h
  | _ =>
      rename_i ih
      have hrest := (ih h).1
      simp only [List.length_cons]
      omega

variable {opened outer : List Opened} {c : Char} {text : List Char}

theorem closing_escaped (h : opened ≠ []) :
    closing opened ('\\' :: c :: text) = closing opened text := by
  rw [closing]
  exact h

theorem closing_dollar_brace (h : opened ≠ []) :
    closing opened ('$' :: '\x7b' :: text) = closing (.expansion :: opened) text := by
  rw [closing]
  exact h

theorem closing_plain {first : Opened} (hescape : c ≠ '\\') (hquote : c ≠ '"')
    (hdollar : c = '$' → text.head? ≠ some '\x7b') (hbrace : c = '\x7d' → first = .quotes) :
    closing (first :: outer) (c :: text) = closing (first :: outer) text := by
  rw [closing.eq_def]
  split <;> simp_all

/-! ## The word of a value -/

/-- The inside of a word with so many expansions open in it. -/
def inside (depth : Nat) : List Opened :=
  List.replicate depth .expansion ++ [.quotes]

theorem inside_succ (depth : Nat) : inside (depth + 1) = .expansion :: inside depth :=
  rfl

theorem inside_ne_nil (depth : Nat) : inside depth ≠ [] := by
  simp [inside]

theorem closing_quote_inside_zero (text : List Char) :
    closing (inside 0) ('"' :: text) = some text := by
  show closing [.quotes] ('"' :: text) = some text
  rw [closing, closing]

/-- Inside a word without open expansions a closing brace stands for itself. -/
theorem closing_inside_plain {depth : Nat} (hescape : c ≠ '\\') (hquote : c ≠ '"')
    (hdollar : c = '$' → text.head? ≠ some '\x7b') (hbrace : c = '\x7d' → depth = 0) :
    closing (inside depth) (c :: text) = closing (inside depth) text := by
  cases depth with
  | zero =>
      exact closing_plain hescape hquote hdollar fun _ => rfl
  | succ depth =>
      exact closing_plain hescape hquote hdollar fun hc => absurd (hbrace hc) (by simp)

theorem head?_escapeActive_ne_brace {value following : List Char}
    (h : value.head? ≠ some '\x7b') :
    (escapeActive value ++ '"' :: following).head? ≠ some '\x7b' := by
  cases value with
  | nil =>
      simp [escapeActive]
  | cons first value =>
      by_cases hactive : isActive first value = true
      · rw [escapeActive_of_active hactive]
        simp
      · rw [escapeActive_of_not_active hactive]
        simpa using h

/-- Reading an escaped value opens and closes the expansions of the value itself. -/
theorem closing_escapeActive (depth : Nat) (value following : List Char) :
    closing (inside depth) (escapeActive value ++ '"' :: following) =
      closing (inside (openExpansions depth value)) ('"' :: following) := by
  fun_induction openExpansions depth value with
  | case1 depth =>
      rfl
  | case2 depth value ih =>
      have hdollar : ¬ isActive '$' ('\x7b' :: value) = true := by
        simp [isActive_iff]
      have hbrace : ¬ isActive '\x7b' value = true := by
        simp [isActive_iff]
      rw [escapeActive_of_not_active hdollar, escapeActive_of_not_active hbrace,
        List.cons_append, List.cons_append, closing_dollar_brace (inside_ne_nil depth)]
      exact ih
  | case3 depth value ih =>
      have hbrace : ¬ isActive '\x7d' value = true := by
        simp [isActive_iff]
      rw [escapeActive_of_not_active hbrace, List.cons_append, ← ih]
      cases depth with
      | zero =>
          exact closing_inside_plain (by decide) (by decide) (by simp) fun _ => rfl
      | succ depth =>
          rw [inside_succ, closing]
          rfl
  | case4 depth c value hdollar hbrace ih =>
      rw [← ih]
      by_cases hactive : isActive c value = true
      · rw [escapeActive_of_active hactive, List.cons_append, List.cons_append]
        exact closing_escaped (inside_ne_nil depth)
      · have hc := mt isActive_iff.mpr hactive
        simp only [not_or] at hc
        obtain ⟨hquote, hescape, _⟩ := hc
        have hhead (h : c = '$') : value.head? ≠ some '\x7b' := by
          intro hnext
          obtain ⟨rest, rfl⟩ := List.head?_eq_some_iff.mp hnext
          exact hdollar rest h rfl
        rw [escapeActive_of_not_active hactive, List.cons_append]
        apply closing_inside_plain hescape hquote
        · intro h
          exact head?_escapeActive_ne_brace (hhead h)
        · intro h
          exact absurd h hbrace

theorem closing_quoteExpanding (value : String) (following : List Char) :
    afterQuotedWord ((quoteExpanding value).toList ++ following) =
      closing (inside (openExpansions 0 value.toList)) ('"' :: following) := by
  rw [toList_quoteExpanding, List.cons_append, List.append_assoc, afterQuotedWord]
  exact closing_escapeActive 0 value.toList following

theorem afterQuotedWord_of_closesExpansions {value : String} (h : ClosesExpansions value)
    (following : List Char) :
    afterQuotedWord ((quoteExpanding value).toList ++ following) = some following := by
  rw [closing_quoteExpanding, h]
  exact closing_quote_inside_zero following

/-- A value that leaves an expansion open takes some of what follows into its word. -/
theorem length_afterQuotedWord {value : String} (h : ¬ ClosesExpansions value)
    {following rest : List Char}
    (hrest : afterQuotedWord ((quoteExpanding value).toList ++ following) = some rest) :
    rest.length < following.length := by
  rw [closing_quoteExpanding] at hrest
  cases hdepth : openExpansions 0 value.toList with
  | zero =>
      exact absurd hdepth h
  | succ depth =>
      rw [hdepth, inside_succ, closing] at hrest
      exact (length_closing hrest).2 (by simp)

theorem afterQuotedWord_eq_some_iff (value : String) (following : List Char) :
    afterQuotedWord ((quoteExpanding value).toList ++ following) = some following ↔
      ClosesExpansions value := by
  constructor
  · intro hword
    by_cases hcloses : ClosesExpansions value
    · exact hcloses
    · exact absurd (length_afterQuotedWord hcloses hword) (Nat.lt_irrefl _)
  · intro hcloses
    exact afterQuotedWord_of_closesExpansions hcloses following

/-! ## Statements -/

def afterLiteral : List Char → Option (List Char)
  | [] => none
  | '\'' :: text => some text
  | _ :: text => afterLiteral text

theorem length_afterLiteral {text rest : List Char} (h : afterLiteral text = some rest) :
    rest.length < text.length := by
  fun_induction afterLiteral text with
  | case1 =>
      cases h
  | case2 text =>
      cases h
      exact Nat.lt_succ_self _
  | case3 c text hc ih =>
      exact Nat.lt_succ_of_lt (ih h)

/-- The text after a statement and the line end that ends it. -/
def afterStatement (text : List Char) : Option (List Char) :=
  match text with
  | [] => none
  | '\n' :: rest => some rest
  | '\\' :: _ :: rest => afterStatement rest
  | '\'' :: rest =>
    match h : afterLiteral rest with
    | none => none
    | some after =>
      have : after.length < rest.length := length_afterLiteral h
      afterStatement after
  | '"' :: rest =>
    match h : closing [.quotes] rest with
    | none => none
    | some after =>
      have : after.length ≤ rest.length := (length_closing h).1
      afterStatement after
  | _ :: rest => afterStatement rest
termination_by text.length

theorem length_afterStatement {text rest : List Char} (h : afterStatement text = some rest) :
    rest.length < text.length := by
  fun_induction afterStatement text with
  | case1 =>
      cases h
  | case2 following =>
      cases h
      exact Nat.lt_succ_self _
  | case3 c following ih =>
      have hrest := ih h
      simp only [List.length_cons]
      omega
  | case4 following hliteral =>
      cases h
  | case5 following after hliteral hafter ih =>
      exact Nat.lt_succ_of_lt (Nat.lt_trans (ih h) hafter)
  | case6 following hquoted =>
      cases h
  | case7 following after hquoted hafter ih =>
      exact Nat.lt_succ_of_lt (Nat.lt_of_lt_of_le (ih h) hafter)
  | case8 c following _ _ _ _ ih =>
      exact Nat.lt_succ_of_lt (ih h)

/-- A character that stands for itself outside quotes and ends no statement. -/
def IsBare (c : Char) : Prop :=
  c ≠ '\n' ∧ c ≠ '\\' ∧ c ≠ '\'' ∧ c ≠ '"'

theorem afterStatement_newline (text : List Char) :
    afterStatement ('\n' :: text) = some text := by
  rw [afterStatement]

theorem afterStatement_escaped (c : Char) (text : List Char) :
    afterStatement ('\\' :: c :: text) = afterStatement text := by
  rw [afterStatement]

theorem afterStatement_literal (text : List Char) :
    afterStatement ('\'' :: text) = (afterLiteral text).bind afterStatement := by
  rw [afterStatement]
  split <;> simp_all

theorem afterStatement_quotes (text : List Char) :
    afterStatement ('"' :: text) = (afterQuotedWord ('"' :: text)).bind afterStatement := by
  rw [afterStatement, afterQuotedWord]
  split <;> simp_all

theorem afterStatement_bare {c : Char} (h : IsBare c) (text : List Char) :
    afterStatement (c :: text) = afterStatement text := by
  obtain ⟨hline, hescape, hliteral, hquote⟩ := h
  rw [afterStatement.eq_def]
  split <;> simp_all

theorem afterStatement_bare_append {bare : List Char} (h : ∀ c ∈ bare, IsBare c)
    (text : List Char) : afterStatement (bare ++ text) = afterStatement text := by
  induction bare with
  | nil =>
      rfl
  | cons c bare ih =>
      obtain ⟨hc, hbare⟩ := List.forall_mem_cons.mp h
      rw [List.cons_append, afterStatement_bare hc, ih hbare]

/-- A character in single quotes, and what ends and opens the quotes around a single
quote, leaves the statement where it is. -/
theorem afterStatement_quotedChar (c : Char) (text : List Char) :
    (afterLiteral (quotedChar c ++ text)).bind afterStatement =
      (afterLiteral text).bind afterStatement := by
  by_cases hc : c = '\''
  · subst hc
    show afterStatement ('\\' :: '\'' :: '\'' :: text) = _
    rw [afterStatement_escaped, afterStatement_literal]
  · rw [quotedChar, if_neg hc, List.singleton_append, afterLiteral]
    exact hc

theorem afterStatement_flatMap_quotedChar (name text : List Char) :
    (afterLiteral (name.flatMap quotedChar ++ '\'' :: text)).bind afterStatement =
      afterStatement text := by
  induction name with
  | nil =>
      rfl
  | cons c name ih =>
      rw [List.flatMap_cons, List.append_assoc, afterStatement_quotedChar, ih]

theorem afterStatement_quote (name : String) (text : List Char) :
    afterStatement ((quote name).toList ++ text) = afterStatement text := by
  have hquote : (quote name).toList ++ text =
      '\'' :: (name.toList.flatMap quotedChar ++ '\'' :: text) := by
    simp [quote, quoteChars]
  rw [hquote, afterStatement_literal, afterStatement_flatMap_quotedChar]

theorem afterStatement_quoteExpanding (value : String) (text : List Char) :
    afterStatement ((quoteExpanding value).toList ++ text) =
      (afterQuotedWord ((quoteExpanding value).toList ++ text)).bind afterStatement := by
  rw [toList_quoteExpanding, List.cons_append, afterStatement_quotes]

/-! ## Lines -/

/-- A line is a statement, whatever lines follow it. -/
def IsStatement (line : String) : Prop :=
  ∀ following, afterStatement (line.toList ++ '\n' :: following) = some following

def linesText (lines : List String) : List Char :=
  lines.flatMap fun line => line.toList ++ ['\n']

def afterStatements : Nat → List Char → Option (List Char)
  | 0, text => some text
  | count + 1, text => (afterStatement text).bind (afterStatements count)

theorem linesText_cons (line : String) (lines : List String) :
    linesText (line :: lines) = line.toList ++ '\n' :: linesText lines := by
  simp [linesText]

theorem isStatement_of_bare {line : String} (h : ∀ c ∈ line.toList, IsBare c) :
    IsStatement line := by
  intro following
  rw [afterStatement_bare_append h, afterStatement_newline]

/-- Lines that are statements on their own are the statements of the text they begin.
If no line depends on what follows to be one, there is no other way. -/
theorem afterStatements_linesText_iff {lines others : List String}
    (h : ∀ line ∈ lines, ∀ following,
      afterStatement (line.toList ++ '\n' :: following) = some following →
        IsStatement line) :
    (∀ count ≤ lines.length, afterStatements count (linesText (lines ++ others)) =
        some (linesText ((lines ++ others).drop count))) ↔
      ∀ line ∈ lines, IsStatement line := by
  induction lines with
  | nil =>
      simp [afterStatements]
  | cons line lines ih =>
      obtain ⟨hline, hlines⟩ := List.forall_mem_cons.mp h
      rw [List.forall_mem_cons, ← ih hlines]
      have hstep (count : Nat) (hstatement : IsStatement line) :
          afterStatements (count + 1) (linesText (line :: lines ++ others)) =
            afterStatements count (linesText (lines ++ others)) := by
        rw [List.cons_append, linesText_cons, afterStatements, hstatement]
        rfl
      constructor
      · intro hcounts
        have hstatement : IsStatement line := by
          have hone := hcounts 1 (by simp)
          rw [List.cons_append, linesText_cons, afterStatements] at hone
          obtain ⟨rest, hrest, hzero⟩ := Option.bind_eq_some_iff.mp hone
          cases hzero
          exact hline _ hrest
        refine ⟨hstatement, fun count hcount => ?_⟩
        rw [← hstep count hstatement]
        exact hcounts (count + 1) (Nat.succ_le_succ hcount)
      · rintro ⟨hstatement, hcounts⟩ count hcount
        cases count with
        | zero =>
            rfl
        | succ count =>
            rw [hstep count hstatement]
            exact hcounts count (Nat.le_of_succ_le_succ hcount)

end Workspaces.Shell

namespace Workspaces

open Shell

/-! ## Lines of a script -/

theorem isBare_of_isLetterOrUnderscore_or_isDigit {c : Char}
    (h : IsLetterOrUnderscore c ∨ IsDigit c) : IsBare c := by
  refine ⟨?_, ?_, ?_, ?_⟩ <;>
  · rintro rfl
    revert h
    unfold IsLetterOrUnderscore IsDigit
    decide

theorem VariableName.isBare {name : String} (h : VariableName name) :
    ∀ c ∈ name.toList, IsBare c := by
  unfold VariableName Matches at h
  cases hname : name.toList with
  | nil =>
      simp
  | cons first others =>
      rw [hname] at h
      obtain ⟨hfirst, hothers⟩ := h
      rw [List.forall_mem_cons]
      constructor
      · exact isBare_of_isLetterOrUnderscore_or_isDigit (.inl hfirst)
      · intro c hc
        exact isBare_of_isLetterOrUnderscore_or_isDigit (hothers c hc)

namespace Script

theorem isStatement_sourceLine {file : String} (h : ∀ c ∈ file.toList, IsBare c) :
    IsStatement (sourceLine file) := by
  apply isStatement_of_bare
  simp only [sourceLine, String.toList_append, List.forall_mem_append]
  exact ⟨⟨⟨⟨by simp [IsBare], h⟩, by simp [IsBare]⟩, h⟩, by simp [IsBare]⟩

theorem afterStatement_export {key : String} (h : ∀ c ∈ key.toList, IsBare c)
    (word : String) (text : List Char) :
    afterStatement (("export " ++ key ++ "=" ++ word).toList ++ text) =
      afterStatement (word.toList ++ text) := by
  rw [String.toList_append, List.append_assoc]
  apply afterStatement_bare_append
  simp only [String.toList_append, List.forall_mem_append]
  exact ⟨⟨by simp [IsBare], h⟩, by simp [IsBare]⟩

theorem isStatement_nameLine {key : String} (h : ∀ c ∈ key.toList, IsBare c)
    (name : String) : IsStatement (nameLine key name) := by
  intro following
  rw [nameLine, afterStatement_export h, afterStatement_quote, afterStatement_newline]

theorem promptLine_eq :
    promptLine = "export " ++ "PS1" ++ "=" ++
      (quote ("(\\[\\e[31m\\]$\x7bDESKTOP_WORKSPACE\x7d\\[\\e[m\\]/" ++
        "\\[\\e[34m\\]$\x7bDESKTOP_CONFIGURATION\x7d\\[\\e[m\\]) ") ++
        quoteExpanding "$PS1") := by
  decide

theorem isStatement_promptLine : IsStatement promptLine := by
  intro following
  rw [promptLine_eq, afterStatement_export (by simp [IsBare]), String.toList_append,
    List.append_assoc, afterStatement_quote, afterStatement_quoteExpanding,
    afterQuotedWord_of_closesExpansions (by decide)]
  exact afterStatement_newline following

theorem afterStatement_variableLine_iff {entry : String × String}
    (h : VariableName entry.1) (following : List Char) :
    afterStatement ((variableLine entry).toList ++ '\n' :: following) = some following ↔
      ClosesExpansions entry.2 := by
  rw [variableLine, afterStatement_export h.isBare, afterStatement_quoteExpanding]
  constructor
  · intro hstatement
    obtain ⟨rest, hrest, hafter⟩ := Option.bind_eq_some_iff.mp hstatement
    by_cases hcloses : ClosesExpansions entry.2
    · exact hcloses
    · have hword := length_afterQuotedWord hcloses hrest
      have hline := length_afterStatement hafter
      simp only [List.length_cons] at hword
      omega
  · intro hcloses
    rw [afterQuotedWord_of_closesExpansions hcloses]
    exact afterStatement_newline following

theorem isStatement_variableLine_iff {entry : String × String} (h : VariableName entry.1) :
    IsStatement (variableLine entry) ↔ ClosesExpansions entry.2 := by
  constructor
  · intro hstatement
    exact (afterStatement_variableLine_iff h []).mp (hstatement [])
  · intro hcloses following
    exact (afterStatement_variableLine_iff h following).mpr hcloses

/-! ## A script -/

/-- The lines of a script up to the last variable. -/
def setupLines (configuration : Configuration) (workspace variant : String) : List String :=
  startupFiles.map sourceLine ++
    [nameLine workspaceVariable workspace, nameLine variantVariable variant, promptLine] ++
    configuration.exports.toList.map variableLine

variable {configuration : Configuration} {workspace variant : String}

theorem lines_render :
    (render configuration workspace variant).lines =
      setupLines configuration workspace variant ++
        (configuration.aliases.toList.map aliasLine ++ configuration.commands) := by
  simp [render, setupLines]

theorem length_setupLines :
    (setupLines configuration workspace variant).length =
      startupFiles.length + 3 + configuration.exports.size := by
  simp [setupLines, Table.size]
  omega

theorem toList_text (script : Script) : script.text.toList = linesText script.lines := by
  simp [text, linesText, String.toList_join, List.flatMap_map]

/-- Only a line that sets a variable can fail to be a statement. -/
theorem forall_setupLines {P : String → Prop} (h : ∀ line, IsStatement line → P line) :
    (∀ line ∈ setupLines configuration workspace variant, P line) ↔
      ∀ entry ∈ configuration.exports.toList, P (variableLine entry) := by
  have hbare : ∀ file ∈ startupFiles, ∀ c ∈ file.toList, IsBare c := by
    simp [startupFiles, IsBare]
  have hfiles : ∀ file ∈ startupFiles, P (sourceLine file) := by
    intro file hfile
    exact h _ (isStatement_sourceLine (hbare file hfile))
  have hworkspace : IsStatement (nameLine workspaceVariable workspace) :=
    isStatement_nameLine (by simp [workspaceVariable, IsBare]) workspace
  have hvariant : IsStatement (nameLine variantVariable variant) :=
    isStatement_nameLine (by simp [variantVariable, IsBare]) variant
  have hnames : ∀ line ∈ [nameLine workspaceVariable workspace,
      nameLine variantVariable variant, promptLine], P line := by
    simp only [List.forall_mem_cons]
    exact ⟨h _ hworkspace, h _ hvariant, h _ isStatement_promptLine, by simp⟩
  rw [setupLines, List.forall_mem_append, List.forall_mem_append, List.forall_mem_map,
    List.forall_mem_map]
  exact and_iff_right (And.intro hfiles hnames)

end Script

/-- A value in double quotes is a word that ends where the value does, whatever follows,
exactly if the value closes the expansions that it opens.  In a script the lines up to
the last variable are read as one statement each, none of them more and none less than
its line, exactly if this is so for all values. -/
theorem quoteExpanding_delimits (value : String) (configuration : Configuration) :
    (∀ following,
      afterQuotedWord ((quoteExpanding value).toList ++ following) = some following ↔
        ClosesExpansions value) ∧
    (configuration.IsEvaluated → ∀ workspace variant,
      (∀ count ≤ Script.startupFiles.length + 3 + configuration.exports.size,
        afterStatements count (Script.render configuration workspace variant).text.toList =
          some (linesText
            ((Script.render configuration workspace variant).lines.drop count))) ↔
        ∀ entry ∈ configuration.exports.toList, ClosesExpansions entry.2) := by
  refine ⟨afterQuotedWord_eq_some_iff value, fun hevaluated workspace variant => ?_⟩
  have hname (entry : String × String) (hentry : entry ∈ configuration.exports.toList) :
      VariableName entry.1 :=
    hevaluated.exportsVariables entry.1 (List.mem_map_of_mem hentry)
  rw [Script.toList_text, Script.lines_render, ← Script.length_setupLines,
    afterStatements_linesText_iff, Script.forall_setupLines fun _ => id]
  · constructor
    · intro hstatements entry hentry
      exact (Script.isStatement_variableLine_iff (hname entry hentry)).mp
        (hstatements entry hentry)
    · intro hcloses entry hentry
      exact (Script.isStatement_variableLine_iff (hname entry hentry)).mpr
        (hcloses entry hentry)
  · rw [Script.forall_setupLines fun line hstatement following _ => hstatement]
    intro entry hentry following hstatement
    have hcloses :=
      (Script.afterStatement_variableLine_iff (hname entry hentry) following).mp hstatement
    exact (Script.isStatement_variableLine_iff (hname entry hentry)).mpr hcloses

open Desktopfile in
/-- One variant leaves an expansion open, the other closes it. -/
theorem quoteExpanding_delimits_expansions :
    ∃ opened closed : Configuration,
      opened.exports.toList = [("A", "$\x7b")] ∧ closed.exports.toList = [("A", "$\x7bB\x7d")] ∧
      (∀ workspace variant, ¬ ∀ count ≤ Script.startupFiles.length + 3 + 1,
        afterStatements count (Script.render opened workspace variant).text.toList =
          some (linesText ((Script.render opened workspace variant).lines.drop count))) ∧
      ∀ workspace variant, ∀ count ≤ Script.startupFiles.length + 3 + 1,
        afterStatements count (Script.render closed workspace variant).text.toList =
          some (linesText ((Script.render closed workspace variant).lines.drop count)) := by
  have htokens : tokenize
      "configuration :v do env 'A', '$\x7b' end configuration :w do env 'A', '$\x7bB\x7d' end" =
        .ok ⟨[⟨.word "configuration", ⟨1, 1⟩⟩, ⟨.symbol "v", ⟨1, 15⟩⟩, ⟨.word "do", ⟨1, 18⟩⟩,
          ⟨.word "env", ⟨1, 21⟩⟩, ⟨.string "A", ⟨1, 25⟩⟩, ⟨.comma, ⟨1, 28⟩⟩,
          ⟨.string "$\x7b", ⟨1, 30⟩⟩, ⟨.word "end", ⟨1, 35⟩⟩,
          ⟨.word "configuration", ⟨1, 39⟩⟩, ⟨.symbol "w", ⟨1, 53⟩⟩, ⟨.word "do", ⟨1, 56⟩⟩,
          ⟨.word "env", ⟨1, 59⟩⟩, ⟨.string "A", ⟨1, 63⟩⟩, ⟨.comma, ⟨1, 66⟩⟩,
          ⟨.string "$\x7bB\x7d", ⟨1, 68⟩⟩, ⟨.word "end", ⟨1, 75⟩⟩], ⟨1, 78⟩⟩ := by
    cbv
  have hopened := Grammar.Derives.body_statement
    (.setVariable ⟨1, 21⟩ (.bare (.more ⟨1, 28⟩ (.string "A" ⟨1, 25⟩) Grammar.newlines_nil
      (.single (.string "$\x7b" ⟨1, 30⟩))))) .body_nil (by simp)
  have hclosed := Grammar.Derives.body_statement
    (.setVariable ⟨1, 59⟩ (.bare (.more ⟨1, 66⟩ (.string "A" ⟨1, 63⟩) Grammar.newlines_nil
      (.single (.string "$\x7bB\x7d" ⟨1, 68⟩))))) .body_nil (by simp)
  have hvariants := Grammar.Variants.cons
    (.mk ⟨1, 1⟩ (.bare (.single (.symbol "v" ⟨1, 15⟩))) (.doEnd ⟨1, 18⟩ ⟨1, 35⟩ hopened))
    Grammar.separators_nil
    (.cons (.mk ⟨1, 39⟩ (.bare (.single (.symbol "w" ⟨1, 53⟩))) (.doEnd ⟨1, 56⟩ ⟨1, 75⟩ hclosed))
      Grammar.separators_nil .nil)
  have hparse : Document.parse "D"
      "configuration :v do env 'A', '$\x7b' end configuration :w do env 'A', '$\x7bB\x7d' end" =
        .ok ⟨[⟨⟨1, 1⟩, "v", [.setVariable ⟨1, 21⟩ "A" "$\x7b"]⟩,
          ⟨⟨1, 39⟩, "w", [.setVariable ⟨1, 59⟩ "A" "$\x7bB\x7d"]⟩]⟩ :=
    Grammar.parse_eq_ok_iff.mpr
      ⟨_, htokens, [], _, rfl, Grammar.separators_nil, hvariants⟩
  have hevaluate := Environment.evaluate_eq hparse .linux
  have hopens : (Configuration.empty.setVariable "A" "$\x7b").IsEvaluated :=
    ⟨.linux, "D", _, _, "v", hevaluate, rfl⟩
  have hcloses : (Configuration.empty.setVariable "A" "$\x7bB\x7d").IsEvaluated :=
    ⟨.linux, "D", _, _, "w", hevaluate, rfl⟩
  refine ⟨.setVariable .empty "A" "$\x7b", .setVariable .empty "A" "$\x7bB\x7d", rfl, rfl, ?_, ?_⟩
  · intro workspace variant hlines
    have hvalue := ((quoteExpanding_delimits "" _).2 hopens workspace variant).mp hlines
    revert hvalue
    decide
  · intro workspace variant
    apply ((quoteExpanding_delimits "" _).2 hcloses workspace variant).mpr
    decide

/-- The expansion that this value opens takes the quote that should end the word. -/
theorem quoteExpanding_opens_expansion :
    ¬ ∀ value following,
      afterQuotedWord ((quoteExpanding value).toList ++ following) = some following := by
  intro h
  have hopen := h "$\x7b" []
  revert hopen
  decide

end Workspaces
