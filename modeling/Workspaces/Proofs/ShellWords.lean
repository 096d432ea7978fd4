import Workspaces.Shell.Quoting

/-!
# Words as the shell reads them

A shell reads a word character by character and knows of each character whether
it is quoted.  Outside quotes a backslash quotes the next character, inside
single quotes every character is quoted, and inside double quotes a backslash
quotes only the characters that would act there.  A text that was quoted is read
back whole: all of it is quoted in single quotes, and in double quotes exactly
the characters that would act are.
-/

namespace Workspaces.Shell

/-- A character of a word, and whether it is quoted. -/
abbrev WordChar := Char × Bool

/-- A blank or a line end, which ends a word outside quotes. -/
def endsWord (c : Char) : Bool := c = ' ' || c = '\t' || c = '\n'

/-- A word up to its end and the text after it.  The flag tells whether the text begins
inside single quotes. -/
def readWord : Bool → List Char → Option (List WordChar × List Char)
  | false, [] => some ([], [])
  | true, [] => none
  | true, '\'' :: text => readWord false text
  | true, c :: text => (readWord true text).map fun (word, rest) => ((c, true) :: word, rest)
  | false, '\'' :: text => readWord true text
  | false, '\\' :: c :: text =>
    (readWord false text).map fun (word, rest) => ((c, true) :: word, rest)
  | false, c :: text =>
    if endsWord c then some ([], c :: text)
    else (readWord false text).map fun (word, rest) => ((c, false) :: word, rest)

/-- Whether a backslash quotes the character inside double quotes. -/
def isEscapable (c : Char) : Bool := c = '$' || c = '`' || c = '"' || c = '\\'

/-- What stands between double quotes, the first of which is read already, and the
text after the second. -/
def readDoubleQuotes : List Char → Option (List WordChar × List Char)
  | [] => none
  | '"' :: text => some ([], text)
  | '\\' :: c :: text =>
    if isEscapable c then
      (readDoubleQuotes text).map fun (word, rest) => ((c, true) :: word, rest)
    else (readDoubleQuotes (c :: text)).map fun (word, rest) => (('\\', false) :: word, rest)
  | c :: text => (readDoubleQuotes text).map fun (word, rest) => ((c, false) :: word, rest)

/-- All characters of a text as a shell knows them in single quotes. -/
def allQuoted (text : List Char) : List WordChar := text.map fun c => (c, true)

/-- The characters of a value as a shell knows them in double quotes. -/
def activeQuoted : List Char → List WordChar
  | [] => []
  | c :: text => (c, isActive c text) :: activeQuoted text

theorem map_fst_allQuoted (text : List Char) : (allQuoted text).map Prod.fst = text := by
  simp [allQuoted, Function.comp_def]

theorem map_fst_activeQuoted (text : List Char) : (activeQuoted text).map Prod.fst = text := by
  induction text with
  | nil =>
      rfl
  | cons c text ih =>
      rw [activeQuoted, List.map_cons, ih]

/-! ## Single quotes -/

theorem readWord_quotedChar (c : Char) (text : List Char) :
    readWord true (quotedChar c ++ text) =
      (readWord true text).map fun (word, rest) => ((c, true) :: word, rest) := by
  by_cases hc : c = '\''
  · subst hc
    show readWord true ('\'' :: '\\' :: '\'' :: '\'' :: text) = _
    rw [readWord, readWord, readWord]
  · rw [quotedChar, if_neg hc, List.singleton_append, readWord]
    exact hc

theorem readWord_flatMap_quotedChar (text : List Char) {following : List Char}
    (h : readWord false following = some ([], following)) :
    readWord true (text.flatMap quotedChar ++ '\'' :: following) =
      some (allQuoted text, following) := by
  induction text with
  | nil =>
      exact h
  | cons c text ih =>
      rw [List.flatMap_cons, List.append_assoc, readWord_quotedChar, ih]
      rfl

/-- A text in single quotes is one word, if no other word goes on right after it. -/
theorem readWord_quoteChars (text : List Char) {following : List Char}
    (h : readWord false following = some ([], following)) :
    readWord false (quoteChars text ++ following) = some (allQuoted text, following) := by
  have hquote : quoteChars text ++ following =
      '\'' :: (text.flatMap quotedChar ++ '\'' :: following) := by
    simp [quoteChars]
  rw [hquote, readWord]
  exact readWord_flatMap_quotedChar text h

/-! ## Double quotes -/

theorem readDoubleQuotes_escaped {c : Char} (h : isEscapable c = true) (text : List Char) :
    readDoubleQuotes ('\\' :: c :: text) =
      (readDoubleQuotes text).map fun (word, rest) => ((c, true) :: word, rest) := by
  rw [readDoubleQuotes, if_pos h]

theorem readDoubleQuotes_plain {c : Char} (hquote : c ≠ '"') (hescape : c ≠ '\\')
    (text : List Char) :
    readDoubleQuotes (c :: text) =
      (readDoubleQuotes text).map fun (word, rest) => ((c, false) :: word, rest) := by
  rw [readDoubleQuotes.eq_def]
  split <;> simp_all

theorem isEscapable_of_isActive {c : Char} {text : List Char} (h : isActive c text = true) :
    isEscapable c = true := by
  rcases isActive_iff.mp h with rfl | rfl | rfl | ⟨rfl, _⟩ <;> decide

/-- A value in double quotes ends where it was closed, and exactly what would act in it
is quoted. -/
theorem readDoubleQuotes_escapeActive (value following : List Char) :
    readDoubleQuotes (escapeActive value ++ '"' :: following) =
      some (activeQuoted value, following) := by
  induction value with
  | nil =>
      rw [escapeActive, List.nil_append, readDoubleQuotes]
      rfl
  | cons c value ih =>
      by_cases hactive : isActive c value = true
      · rw [escapeActive_of_active hactive, List.cons_append, List.cons_append,
          readDoubleQuotes_escaped (isEscapable_of_isActive hactive), ih, activeQuoted, hactive]
        rfl
      · have hc := mt isActive_iff.mpr hactive
        simp only [not_or] at hc
        obtain ⟨hquote, hescape, _⟩ := hc
        rw [escapeActive_of_not_active hactive, List.cons_append,
          readDoubleQuotes_plain hquote hescape, ih, activeQuoted,
          Bool.eq_false_iff.mpr hactive]
        rfl

end Workspaces.Shell
