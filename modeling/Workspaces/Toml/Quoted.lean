import Workspaces.Text.Split

/-!
# Reading quoted strings of TOML

There are four forms: between double quotes with escapes or between single
quotes without, each on one line or, with three quotes on either side, on
several.  Every reader is given the text after the opening quotes and gives
back the string and the text after the closing ones.
-/

namespace Workspaces.Toml

/-- Whether a character is a control other than a tab.  A line feed is one too. -/
def isControl (c : Char) : Bool :=
  (c.toNat < 0x20 && c ≠ '\t') || c = '\x7f'

def isBlankChar (c : Char) : Bool := c = ' ' || c = '\t'

def hexValue? (c : Char) : Option Nat :=
  if '0' ≤ c ∧ c ≤ '9' then some (c.toNat - '0'.toNat)
  else if 'a' ≤ c ∧ c ≤ 'f' then some (c.toNat - 'a'.toNat + 10)
  else if 'A' ≤ c ∧ c ≤ 'F' then some (c.toNat - 'A'.toNat + 10)
  else none

/-- A number of exactly so many more digits in base sixteen, after the digits of `value`. -/
def readHex (value : Nat) : Nat → List Char → Option (Nat × List Char)
  | 0, text => some (value, text)
  | _ + 1, [] => none
  | count + 1, c :: text =>
    match hexValue? c with
    | none => none
    | some digit => readHex (value * 16 + digit) count text

/-- A character told by so many digits. -/
def readNumberedChar (digits : Nat) (text : List Char) : Option (Char × List Char) :=
  match readHex 0 digits text with
  | none => none
  | some (value, rest) => if value.isValidChar then some (Char.ofNat value, rest) else none

/-- The character that a single letter after a backslash stands for. -/
def shortEscape? (c : Char) : Option Char :=
  if c = 'b' then some '\x08'
  else if c = 't' then some '\t'
  else if c = 'n' then some '\n'
  else if c = 'f' then some '\x0c'
  else if c = 'r' then some '\r'
  else if c = 'e' then some '\x1b'
  else if c = '"' ∨ c = '\\' then some c
  else none

/-- The character that an escape stands for; the text follows the backslash. -/
def readEscape : List Char → Option (Char × List Char)
  | [] => none
  | c :: text =>
    match shortEscape? c with
    | some escaped => some (escaped, text)
    | none =>
      if c = 'x' then readNumberedChar 2 text
      else if c = 'u' then readNumberedChar 4 text
      else if c = 'U' then readNumberedChar 8 text
      else none

theorem length_readHex {value digits result : Nat} {text rest : List Char}
    (h : readHex value digits text = some (result, rest)) : rest.length ≤ text.length := by
  fun_induction readHex value digits text with
  | case1 => simp_all
  | case2 => simp at h
  | case3 => simp at h
  | case4 value count c text digit hdigit ih =>
    have := ih h
    simp only [List.length_cons]
    omega

theorem length_readNumberedChar {digits : Nat} {c : Char} {text rest : List Char}
    (h : readNumberedChar digits text = some (c, rest)) : rest.length ≤ text.length := by
  unfold readNumberedChar at h
  split at h
  · simp at h
  · rename_i hread
    split at h
    · simp only [Option.some.injEq, Prod.mk.injEq] at h
      exact h.2 ▸ length_readHex hread
    · simp at h

theorem length_readEscape {c : Char} {text rest : List Char}
    (h : readEscape text = some (c, rest)) : rest.length < text.length := by
  unfold readEscape at h
  split at h
  · simp at h
  · simp only [List.length_cons]
    split at h
    · simp only [Option.some.injEq, Prod.mk.injEq] at h
      simp [← h.2]
    · split at h
      · exact Nat.lt_succ_of_le (length_readNumberedChar h)
      · split at h
        · exact Nat.lt_succ_of_le (length_readNumberedChar h)
        · split at h
          · exact Nat.lt_succ_of_le (length_readNumberedChar h)
          · simp at h

/-- A string between double quotes. -/
def readBasic (text : List Char) : Option (List Char × List Char) :=
  match text with
  | [] => none
  | c :: rest =>
    if c = '"' then some ([], rest)
    else if c = '\\' then
      match hescape : readEscape rest with
      | none => none
      | some (escaped, next) =>
        have := length_readEscape hescape
        (readBasic next).map fun (string, last) => (escaped :: string, last)
    else if isControl c then none
    else (readBasic rest).map fun (string, last) => (c :: string, last)
termination_by text.length

/-- A string between single quotes. -/
def readLiteral : List Char → Option (List Char × List Char)
  | [] => none
  | c :: rest =>
    if c = '\'' then some ([], rest)
    else if isControl c then none
    else (readLiteral rest).map fun (string, last) => (c :: string, last)

/-- The text after blanks and line ends. -/
def skipLines : List Char → List Char
  | [] => []
  | '\r' :: '\n' :: rest => skipLines rest
  | c :: rest => if isBlankChar c ∨ c = '\n' then skipLines rest else c :: rest

/-- The text after a backslash at the end of a line and the blanks of the next lines,
if only blanks stand between it and the line end. -/
def skipLineBreak? (text : List Char) : Option (List Char) :=
  match text.dropWhile isBlankChar with
  | '\n' :: rest => some (skipLines rest)
  | '\r' :: '\n' :: rest => some (skipLines rest)
  | _ => none

/-- Up to two quotes that belong to a string although its closing quotes follow. -/
def readLastQuotes (quote : Char) : List Char → List Char × List Char
  | first :: second :: rest =>
    if first = quote then
      if second = quote then ([quote, quote], rest) else ([quote], second :: rest)
    else ([], first :: second :: rest)
  | [first] => if first = quote then ([quote], []) else ([], [first])
  | [] => ([], [])

/-- Whether a text begins with three quotes. -/
def startsClosing (quote : Char) : List Char → Bool
  | first :: second :: third :: _ => first = quote && second = quote && third = quote
  | _ => false

theorem length_skipLines (text : List Char) : (skipLines text).length ≤ text.length := by
  fun_induction skipLines text <;> simp_all <;> omega

theorem length_skipLineBreak? {text rest : List Char} (h : skipLineBreak? text = some rest) :
    rest.length < text.length := by
  have hdrop := (List.dropWhile_sublist (l := text) isBlankChar).length_le
  unfold skipLineBreak? at h
  split at h
  · rename_i after heq
    have := length_skipLines after
    simp only [Option.some.injEq] at h
    simp only [heq, List.length_cons] at hdrop
    rw [h] at this
    omega
  · rename_i after heq
    have := length_skipLines after
    simp only [Option.some.injEq] at h
    simp only [heq, List.length_cons] at hdrop
    rw [h] at this
    omega
  · simp at h

/-- A string between three double quotes. -/
def readMultilineBasic (text : List Char) : Option (List Char × List Char) :=
  match text with
  | [] => none
  | c :: rest =>
    if startsClosing '"' (c :: rest) then some (readLastQuotes '"' (rest.drop 2))
    else if c = '\\' then
      match hbreak : skipLineBreak? rest with
      | some next =>
        have := length_skipLineBreak? hbreak
        readMultilineBasic next
      | none =>
        match hescape : readEscape rest with
        | none => none
        | some (escaped, next) =>
          have := length_readEscape hescape
          (readMultilineBasic next).map fun (string, last) => (escaped :: string, last)
    else if isControl c ∧ c ≠ '\n' ∧ ¬ (c = '\r' ∧ rest.head? = some '\n') then none
    else (readMultilineBasic rest).map fun (string, last) => (c :: string, last)
termination_by text.length

/-- A string between three single quotes. -/
def readMultilineLiteral : List Char → Option (List Char × List Char)
  | [] => none
  | c :: rest =>
    if startsClosing '\'' (c :: rest) then some (readLastQuotes '\'' (rest.drop 2))
    else if isControl c ∧ c ≠ '\n' ∧ ¬ (c = '\r' ∧ rest.head? = some '\n') then none
    else (readMultilineLiteral rest).map fun (string, last) => (c :: string, last)

/-- The text after a line end that stands at its beginning. -/
def skipFirstLineEnd : List Char → List Char
  | '\n' :: rest => rest
  | '\r' :: '\n' :: rest => rest
  | text => text

/-- A string in any form; the text begins with its opening quotes. -/
def readQuoted (text : List Char) : Option (List Char × List Char) :=
  match text with
  | '"' :: rest =>
    if startsClosing '"' text then readMultilineBasic (skipFirstLineEnd (rest.drop 2))
    else readBasic rest
  | '\'' :: rest =>
    if startsClosing '\'' text then readMultilineLiteral (skipFirstLineEnd (rest.drop 2))
    else readLiteral rest
  | _ => none

/-- A string in a form of one line. -/
def readQuotedLine (text : List Char) : Option (List Char × List Char) :=
  match text with
  | '"' :: rest => readBasic rest
  | '\'' :: rest => readLiteral rest
  | _ => none

theorem length_readBasic {text string rest : List Char}
    (h : readBasic text = some (string, rest)) : rest.length < text.length := by
  fun_induction readBasic text generalizing string rest with
  | case1 => simp at h
  | case2 => simp_all
  | case3 => simp at h
  | case4 c more _ next _ _ ih =>
    obtain ⟨⟨inner, last⟩, hread, heq⟩ := Option.map_eq_some_iff.1 h
    simp only [Prod.mk.injEq] at heq
    have := ih hread
    have := length_readEscape ‹readEscape _ = some _›
    simp only [List.length_cons, ← heq.2]
    omega
  | case5 => simp at h
  | case6 c more _ _ _ ih =>
    obtain ⟨⟨inner, last⟩, hread, heq⟩ := Option.map_eq_some_iff.1 h
    simp only [Prod.mk.injEq] at heq
    have := ih hread
    simp only [List.length_cons, ← heq.2]
    omega

theorem length_readLiteral {text string rest : List Char}
    (h : readLiteral text = some (string, rest)) : rest.length < text.length := by
  fun_induction readLiteral text generalizing string rest with
  | case1 => simp at h
  | case2 => simp_all
  | case3 => simp at h
  | case4 c more _ _ ih =>
    obtain ⟨⟨inner, last⟩, hread, heq⟩ := Option.map_eq_some_iff.1 h
    simp only [Prod.mk.injEq] at heq
    have := ih hread
    simp only [List.length_cons, ← heq.2]
    omega

theorem length_readLastQuotes (quote : Char) (text : List Char) :
    (readLastQuotes quote text).2.length ≤ text.length := by
  fun_cases readLastQuotes quote text <;> simp_all
  omega

theorem length_readMultilineBasic {text string rest : List Char}
    (h : readMultilineBasic text = some (string, rest)) : rest.length < text.length := by
  fun_induction readMultilineBasic text generalizing string rest with
  | case1 => simp at h
  | case2 c more _ =>
    have := length_readLastQuotes '"' (more.drop 2)
    simp only [Option.some.injEq] at h
    simp only [h, List.length_drop] at this
    simp only [List.length_cons]
    omega
  | case3 more _ next _ _ ih =>
    have := ih h
    have := length_skipLineBreak? ‹skipLineBreak? _ = some _›
    simp only [List.length_cons]
    omega
  | case4 => simp at h
  | case5 c more _ next _ _ _ ih =>
    obtain ⟨⟨inner, last⟩, hread, heq⟩ := Option.map_eq_some_iff.1 h
    simp only [Prod.mk.injEq] at heq
    have := ih hread
    have := length_readEscape ‹readEscape _ = some _›
    simp only [List.length_cons, ← heq.2]
    omega
  | case6 => simp at h
  | case7 c more _ _ _ ih =>
    obtain ⟨⟨inner, last⟩, hread, heq⟩ := Option.map_eq_some_iff.1 h
    simp only [Prod.mk.injEq] at heq
    have := ih hread
    simp only [List.length_cons, ← heq.2]
    omega

theorem length_readMultilineLiteral {text string rest : List Char}
    (h : readMultilineLiteral text = some (string, rest)) : rest.length < text.length := by
  fun_induction readMultilineLiteral text generalizing string rest with
  | case1 => simp at h
  | case2 c more _ =>
    have := length_readLastQuotes '\'' (more.drop 2)
    simp only [Option.some.injEq] at h
    simp only [h, List.length_drop] at this
    simp only [List.length_cons]
    omega
  | case3 => simp at h
  | case4 c more _ _ ih =>
    obtain ⟨⟨inner, last⟩, hread, heq⟩ := Option.map_eq_some_iff.1 h
    simp only [Prod.mk.injEq] at heq
    have := ih hread
    simp only [List.length_cons, ← heq.2]
    omega

theorem length_skipFirstLineEnd (text : List Char) :
    (skipFirstLineEnd text).length ≤ text.length := by
  fun_cases skipFirstLineEnd text <;> simp
  omega

theorem length_readQuoted {text string rest : List Char}
    (h : readQuoted text = some (string, rest)) : rest.length < text.length := by
  unfold readQuoted at h
  split at h
  · rename_i more
    have hskip := length_skipFirstLineEnd (more.drop 2)
    simp only [List.length_drop] at hskip
    simp only [List.length_cons]
    split at h
    · have := length_readMultilineBasic h
      omega
    · have := length_readBasic h
      omega
  · rename_i more
    have hskip := length_skipFirstLineEnd (more.drop 2)
    simp only [List.length_drop] at hskip
    simp only [List.length_cons]
    split at h
    · have := length_readMultilineLiteral h
      omega
    · have := length_readLiteral h
      omega
  · simp at h

theorem length_readQuotedLine {text string rest : List Char}
    (h : readQuotedLine text = some (string, rest)) : rest.length < text.length := by
  unfold readQuotedLine at h
  split at h
  · have := length_readBasic h
    simp only [List.length_cons]
    omega
  · have := length_readLiteral h
    simp only [List.length_cons]
    omega
  · simp at h

end Workspaces.Toml
