import Workspaces.Desktopfile.SyntaxError

/-!
# From characters to tokens

Between two tokens there may be a gap of blanks, tabs, carriage returns and
comments.  A comment runs from `#` up to, and not including, the end of its
line.  Every reader here takes the position of the text it reads and gives back
a cursor: the text that follows and its position.  A token is never empty, so
the text left to read gets shorter with each one.
-/

namespace Workspaces.Desktopfile

/-- What is left to read and the position at which it begins. -/
structure Cursor where
  rest : List Char
  position : Position

def isGapChar (c : Char) : Bool := c = ' ' || c = '\t' || c = '\r'

def isWordStart (c : Char) : Bool := c.isAlpha || c = '_'

def isWordChar (c : Char) : Bool := c.isAlphanum || c = '_'

/-- The cursor after a gap.  `inComment` tells whether a comment is open. -/
def skipGap (inComment : Bool) (position : Position) : List Char → Cursor
  | [] => ⟨[], position⟩
  | c :: rest =>
    if inComment then
      if c = '\n' then ⟨c :: rest, position⟩ else skipGap true (position.advance c) rest
    else if isGapChar c then skipGap false (position.advance c) rest
    else if c = '#' then skipGap true (position.advance c) rest
    else ⟨c :: rest, position⟩

/-- The longest run of word characters. -/
def readWord (position : Position) : List Char → List Char × Cursor
  | [] => ([], ⟨[], position⟩)
  | c :: rest =>
    if isWordChar c then
      let (word, cursor) := readWord (position.advance c) rest
      (c :: word, cursor)
    else ([], ⟨c :: rest, position⟩)

/-- The text up to a closing single quote.  Only `\'` and `\\` are escapes. -/
def readSingleQuoted (position : Position) : List Char → Option (List Char × Cursor)
  | [] => none
  | '\'' :: rest => some ([], ⟨rest, position.advance '\''⟩)
  | '\\' :: '\'' :: rest =>
    (readSingleQuoted ((position.advance '\\').advance '\'') rest).map fun (text, cursor) =>
      ('\'' :: text, cursor)
  | '\\' :: '\\' :: rest =>
    (readSingleQuoted ((position.advance '\\').advance '\\') rest).map fun (text, cursor) =>
      ('\\' :: text, cursor)
  | c :: rest =>
    (readSingleQuoted (position.advance c) rest).map fun (text, cursor) => (c :: text, cursor)

/-- What a backslash and the given character stand for between double quotes. -/
def unescaped (c : Char) : List Char :=
  if c = 'n' then ['\n']
  else if c = 't' then ['\t']
  else if c = 'r' then ['\r']
  else if c = '0' then ['\x00']
  else if c = 'e' then ['\x1b']
  else if c = '"' ∨ c = '\\' ∨ c = '$' ∨ c = '#' then [c]
  else ['\\', c]

/-- The text up to a closing double quote; `opening` is where the literal begins. -/
def readDoubleQuoted (opening position : Position) :
    List Char → Except SyntaxError (List Char × Cursor)
  | [] => .error ⟨opening, .unterminatedString⟩
  | '"' :: rest => .ok ([], ⟨rest, position.advance '"'⟩)
  | ['\\'] => .error ⟨opening, .unterminatedString⟩
  | '\\' :: c :: rest =>
    (readDoubleQuoted opening ((position.advance '\\').advance c) rest).map
      fun (text, cursor) => (unescaped c ++ text, cursor)
  | '#' :: '\x7b' :: _ => .error ⟨position, .interpolation⟩
  | c :: rest =>
    (readDoubleQuoted opening (position.advance c) rest).map
      fun (text, cursor) => (c :: text, cursor)

/-- The token that consists of one character, if it is such a character. -/
def punctuation? (c : Char) : Option Token :=
  if c = '\n' then some .newline
  else if c = ',' then some .comma
  else if c = '(' then some .openParen
  else if c = ')' then some .closeParen
  else if c = '\x7b' then some .openBrace
  else if c = '\x7d' then some .closeBrace
  else if c = ';' then some .semicolon
  else none

/-- The token that begins with `c` at `position`; `rest` follows `c`. -/
def readToken (position : Position) (c : Char) (rest : List Char) :
    Except SyntaxError (Token × Cursor) :=
  match punctuation? c with
  | some token => .ok (token, ⟨rest, position.advance c⟩)
  | none =>
    if c = '\'' then
      match readSingleQuoted (position.advance c) rest with
      | some (text, cursor) => .ok (.string (String.ofList text), cursor)
      | none => .error ⟨position, .unterminatedString⟩
    else if c = '"' then
      (readDoubleQuoted position (position.advance c) rest).map fun (text, cursor) =>
        (.string (String.ofList text), cursor)
    else if c = ':' then
      if (rest.head?.map isWordStart).getD false then
        let (name, cursor) := readWord (position.advance c) rest
        .ok (.symbol (String.ofList name), cursor)
      else .error ⟨position, .missingSymbolName⟩
    else if isWordStart c then
      let (text, cursor) := readWord (position.advance c) rest
      .ok (.word (String.ofList (c :: text)), cursor)
    else .error ⟨position, .unexpectedCharacter c⟩

theorem length_skipGap (inComment : Bool) (position : Position) (text : List Char) :
    (skipGap inComment position text).rest.length ≤ text.length := by
  fun_induction skipGap inComment position text <;> simp_all <;> omega

theorem length_readWord (position : Position) (text : List Char) :
    (readWord position text).2.rest.length ≤ text.length := by
  fun_induction readWord position text <;> simp_all
  omega

theorem length_readSingleQuoted {position : Position} {text value : List Char} {cursor : Cursor}
    (h : readSingleQuoted position text = some (value, cursor)) :
    cursor.rest.length ≤ text.length := by
  fun_induction readSingleQuoted position text generalizing value cursor with
  | case1 => simp at h
  | case2 position rest =>
    simp only [Option.some.injEq, Prod.mk.injEq] at h
    simp [← h.2]
  | case3 position rest ih =>
    obtain ⟨⟨text, last⟩, hread, heq⟩ := Option.map_eq_some_iff.1 h
    simp only [Prod.mk.injEq] at heq
    have := ih hread
    simp only [List.length_cons, ← heq.2]
    omega
  | case4 position rest ih =>
    obtain ⟨⟨text, last⟩, hread, heq⟩ := Option.map_eq_some_iff.1 h
    simp only [Prod.mk.injEq] at heq
    have := ih hread
    simp only [List.length_cons, ← heq.2]
    omega
  | case5 position c rest _ _ _ ih =>
    obtain ⟨⟨text, last⟩, hread, heq⟩ := Option.map_eq_some_iff.1 h
    simp only [Prod.mk.injEq] at heq
    have := ih hread
    simp only [List.length_cons, ← heq.2]
    omega

theorem except_map_eq_ok {f : α → β} {result : Except ε α} {b : β}
    (h : result.map f = .ok b) : ∃ a, result = .ok a ∧ f a = b := by
  cases result with
  | error e => simp [Except.map] at h
  | ok a => exact ⟨a, rfl, by simpa [Except.map] using h⟩

theorem length_readDoubleQuoted {opening position : Position} {text value : List Char}
    {cursor : Cursor} (h : readDoubleQuoted opening position text = .ok (value, cursor)) :
    cursor.rest.length ≤ text.length := by
  fun_induction readDoubleQuoted opening position text generalizing value cursor with
  | case1 => simp at h
  | case2 position rest =>
    simp only [Except.ok.injEq, Prod.mk.injEq] at h
    simp [← h.2]
  | case3 => simp at h
  | case4 position c rest ih =>
    obtain ⟨⟨text, last⟩, hread, heq⟩ := except_map_eq_ok h
    simp only [Prod.mk.injEq] at heq
    have := ih hread
    simp only [List.length_cons, ← heq.2]
    omega
  | case5 => simp at h
  | case6 position c rest _ _ _ _ ih =>
    obtain ⟨⟨text, last⟩, hread, heq⟩ := except_map_eq_ok h
    simp only [Prod.mk.injEq] at heq
    have := ih hread
    simp only [List.length_cons, ← heq.2]
    omega

theorem length_readToken {position : Position} {c : Char} {rest : List Char} {token : Token}
    {cursor : Cursor} (h : readToken position c rest = .ok (token, cursor)) :
    cursor.rest.length ≤ rest.length := by
  unfold readToken at h
  split at h
  · simp only [Except.ok.injEq, Prod.mk.injEq] at h
    simp [← h.2]
  · split at h
    · split at h
      · rename_i hread
        simp only [Except.ok.injEq, Prod.mk.injEq] at h
        exact h.2 ▸ length_readSingleQuoted hread
      · simp at h
    · split at h
      · obtain ⟨⟨text, last⟩, hread, heq⟩ := except_map_eq_ok h
        simp only [Prod.mk.injEq] at heq
        exact heq.2 ▸ length_readDoubleQuoted hread
      · split at h
        · split at h
          · simp only [Except.ok.injEq, Prod.mk.injEq] at h
            exact h.2 ▸ length_readWord _ _
          · simp at h
        · split at h
          · simp only [Except.ok.injEq, Prod.mk.injEq] at h
            exact h.2 ▸ length_readWord _ _
          · simp at h

/-- The tokens of a text that begins at `position`. -/
def readTokens (position : Position) (text : List Char) : Except SyntaxError TokenStream :=
  match hgap : skipGap false position text with
  | ⟨[], stop⟩ => .ok ⟨[], stop⟩
  | ⟨c :: rest, start⟩ =>
    have hrest : rest.length < text.length := by
      have := length_skipGap false position text
      rw [hgap] at this
      exact this
    match htoken : readToken start c rest with
    | .error error => .error error
    | .ok (token, cursor) =>
      have hcursor : cursor.rest.length < text.length :=
        Nat.lt_of_le_of_lt (length_readToken htoken) hrest
      (readTokens cursor.position cursor.rest).map fun stream =>
        ⟨⟨token, start⟩ :: stream.tokens, stream.stop⟩
termination_by text.length

/-- The tokens of a source. -/
def tokenize (source : String) : Except SyntaxError TokenStream :=
  readTokens .start source.toList

end Workspaces.Desktopfile
